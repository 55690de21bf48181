import Groundwork.Proofs.Text.Trimming
import Groundwork.Text.Cut
import Mathlib.Data.List.Chain

/-!
# The words of a text

The runs of a class are the words that its characters make. What stands between two words only
separates them: joined by any mark outside the class they are the same words, and so they are where
every other run was replaced by one mark and the marks at both ends were dropped.
-/

namespace Groundwork.Text

variable {p q : Char → Bool} {c sep : Char} {cs run word gap rest : List Char}
  {words : List (List Char)}

/-- Some characters, all of the class. -/
structure Word (p : Char → Bool) (word : List Char) : Prop where
  ne_nil : word ≠ []
  all : ∀ c ∈ word, p c

theorem runsFrom_cons_pos (h : p c) :
    runsFrom p (c :: rest) = (c :: (runsFrom p rest).1, (runsFrom p rest).2) := by
  rw [runsFrom]
  exact if_pos h

theorem runsFrom_cons_neg (h : ¬ p c) : runsFrom p (c :: rest) = ([], runs p rest) := by
  rw [runsFrom]
  exact if_neg h

theorem runs_of_runsFrom {later : List (List Char)} (h : runsFrom p cs = ([], later)) :
    runs p cs = later := by
  rw [runs, h]
  exact if_pos rfl

theorem runs_cons_neg (h : ¬ p c) : runs p (c :: rest) = runs p rest :=
  runs_of_runsFrom (runsFrom_cons_neg h)

theorem runs_cons_pos (h : p c) :
    runs p (c :: rest) = (c :: (runsFrom p rest).1) :: (runsFrom p rest).2 := by
  rw [runs, runsFrom_cons_pos h]
  exact if_neg (List.cons_ne_nil _ _)

/-- A text that begins outside the class begins with no run. -/
theorem runsFrom_of_head (h : ¬ rest.head?.any p) : runsFrom p rest = ([], runs p rest) := by
  cases rest with
  | nil => rfl
  | cons c rest =>
    have hc : ¬ p c := by simpa using h
    rw [runsFrom_cons_neg hc, runs_cons_neg hc]

theorem runs_gap (h : ∀ c ∈ gap, ¬ p c) (rest : List Char) : runs p (gap ++ rest) = runs p rest := by
  induction gap with
  | nil => rfl
  | cons c gap ih =>
    obtain ⟨hc, hgap⟩ := List.forall_mem_cons.1 h
    rw [List.cons_append, runs_cons_neg hc, ih hgap]

theorem runsFrom_append (h : ∀ c ∈ word, p c) (rest : List Char) :
    runsFrom p (word ++ rest) = (word ++ (runsFrom p rest).1, (runsFrom p rest).2) := by
  induction word with
  | nil => rfl
  | cons c word ih =>
    obtain ⟨hc, hword⟩ := List.forall_mem_cons.1 h
    rw [List.cons_append, runsFrom_cons_pos hc, ih hword, List.cons_append]

/-- A word ends where a character outside the class follows. -/
theorem runs_append (hword : Word p word) (hrest : ¬ rest.head?.any p) :
    runs p (word ++ rest) = word :: runs p rest := by
  rw [runs, runsFrom_append hword.all, runsFrom_of_head hrest, List.append_nil]
  exact if_neg hword.ne_nil

theorem runsFrom_words (p : Char → Bool) (cs : List Char) :
    (∀ c ∈ (runsFrom p cs).1, p c) ∧ ∀ run ∈ runs p cs, Word p run := by
  induction cs with
  | nil => exact ⟨nofun, nofun⟩
  | cons c rest ih =>
    obtain ⟨hfirst, hruns⟩ := ih
    by_cases hc : p c
    · have hall : ∀ d ∈ c :: (runsFrom p rest).1, p d := List.forall_mem_cons.2 ⟨hc, hfirst⟩
      rw [runsFrom_cons_pos hc, runs_cons_pos hc]
      refine ⟨hall, List.forall_mem_cons.2 ⟨⟨List.cons_ne_nil _ _, hall⟩, fun run hrun => ?_⟩⟩
      refine hruns run ?_
      unfold runs
      dsimp only
      split
      · exact hrun
      · exact List.mem_cons_of_mem _ hrun
    · rw [runsFrom_cons_neg hc, runs_cons_neg hc]
      exact ⟨nofun, hruns⟩

theorem word_of_mem_runs (h : run ∈ runs p cs) : Word p run :=
  (runsFrom_words p cs).2 run h

theorem flatten_runsFrom (p : Char → Bool) (cs : List Char) :
    (runsFrom p cs).1 ++ (runsFrom p cs).2.flatten = (runs p cs).flatten := by
  unfold runs
  dsimp only
  split
  · rename_i hnil
    rw [hnil, List.nil_append]
  · rw [List.flatten_cons]

/-- The runs of a class hold its characters, in their order, and nothing else. -/
theorem flatten_runs (p : Char → Bool) (cs : List Char) : (runs p cs).flatten = cs.filter p := by
  induction cs with
  | nil => rfl
  | cons c rest ih =>
    by_cases hc : p c
    · rw [runs_cons_pos hc, List.flatten_cons, List.cons_append, flatten_runsFrom, ih,
        List.filter_cons_of_pos hc]
    · rw [runs_cons_neg hc, List.filter_cons_of_neg hc, ih]

theorem runs_eq_nil_iff : runs p cs = [] ↔ ∀ c ∈ cs, ¬ p c := by
  rw [← List.filter_eq_nil_iff, ← flatten_runs]
  constructor
  · intro h
    rw [h, List.flatten_nil]
  · intro h
    rw [List.eq_nil_iff_forall_not_mem]
    intro run hrun
    exact (word_of_mem_runs hrun).ne_nil (List.flatten_eq_nil_iff.1 h run hrun)

/-- Cutting gives back the words that were joined by a mark outside the class. -/
theorem runs_intercalate (hsep : ¬ p sep) (h : ∀ word ∈ words, Word p word) :
    runs p (List.intercalate [sep] words) = words := by
  induction words with
  | nil => rfl
  | cons word later ih =>
    obtain ⟨hword, hlater⟩ := List.forall_mem_cons.1 h
    cases later with
    | nil =>
      have hruns := runs_append hword (by simp : ¬ ([] : List Char).head?.any p)
      rw [List.append_nil] at hruns
      rw [List.intercalate_singleton, hruns]
      rfl
    | cons next others =>
      rw [List.intercalate_cons_cons, List.append_assoc, List.singleton_append,
        runs_append hword (by simpa using hsep), runs_cons_neg hsep, ih hlater]

theorem mem_of_mem_intercalate {sep : List Char} {parts : List (List Char)}
    (h : c ∈ List.intercalate sep parts) : c ∈ sep ∨ ∃ part ∈ parts, c ∈ part := by
  induction parts with
  | nil => simp at h
  | cons part rest ih =>
    cases rest with
    | nil =>
      rw [List.intercalate_singleton] at h
      exact .inr ⟨part, List.mem_cons_self, h⟩
    | cons next later =>
      rw [List.intercalate_cons_cons, List.append_assoc, List.mem_append, List.mem_append] at h
      rcases h with h | h | h
      · exact .inr ⟨part, List.mem_cons_self, h⟩
      · exact .inl h
      · rcases ih h with h | ⟨q, hq, h⟩
        · exact .inl h
        · exact .inr ⟨q, List.mem_cons_of_mem _ hq, h⟩

theorem mem_intercalate {parts : List (List Char)}
    (h : c ∈ List.intercalate [sep] parts) : c = sep ∨ ∃ part ∈ parts, c ∈ part :=
  (mem_of_mem_intercalate h).imp_left List.mem_singleton.1

theorem intercalate_cons_head (sep : List Char) :
    List.intercalate sep ((c :: word) :: words) = c :: List.intercalate sep (word :: words) := by
  cases words <;> simp

theorem intercalate_eq_nil_iff (h : ∀ word ∈ words, word ≠ []) :
    List.intercalate [sep] words = [] ↔ words = [] := by
  cases words with
  | nil => simp
  | cons word later =>
    have hword := h word List.mem_cons_self
    cases later <;> simp [hword]

/-- Joined words begin and end in the class. -/
theorem head?_intercalate (h : ∀ word ∈ words, Word p word) :
    ∀ c ∈ (List.intercalate [sep] words).head?, p c := by
  intro c hc
  cases words with
  | nil => cases hc
  | cons word later =>
    have hword := h word List.mem_cons_self
    obtain ⟨first, rest, rfl⟩ := List.exists_cons_of_ne_nil hword.ne_nil
    rw [intercalate_cons_head] at hc
    obtain rfl : first = c := Option.some.inj hc
    exact hword.all first List.mem_cons_self

theorem getLast?_intercalate (h : ∀ word ∈ words, Word p word) :
    ∀ c ∈ (List.intercalate [sep] words).getLast?, p c := by
  induction words with
  | nil => nofun
  | cons word later ih =>
    obtain ⟨hword, hlater⟩ := List.forall_mem_cons.1 h
    cases later with
    | nil =>
      rw [List.intercalate_singleton]
      exact fun c hc => hword.all c (List.mem_of_getLast? hc)
    | cons next others =>
      have hne : List.intercalate [sep] (next :: others) ≠ [] :=
        mt (intercalate_eq_nil_iff fun word hmem => (hlater word hmem).ne_nil).1 (by simp)
      rw [List.intercalate_cons_cons, List.getLast?_append_of_ne_nil _ hne]
      exact ih hlater

theorem not_infix_of_isChain (h : cs.IsChain fun a b => a ≠ sep ∨ b ≠ sep) :
    ¬ [sep, sep] <:+: cs := by
  rintro ⟨front, back, hsplit⟩
  have hpair := List.isChain_iff_forall_rel_of_append_cons_cons.1 h
    (hsplit.symm.trans (List.append_assoc front [sep, sep] back))
  exact hpair.elim (absurd rfl) (absurd rfl)

/-- Between joined words no mark follows another. -/
theorem isChain_intercalate (hsep : ¬ p sep) (h : ∀ word ∈ words, Word p word) :
    (List.intercalate [sep] words).IsChain fun a b => a ≠ sep ∨ b ≠ sep := by
  have hoff {c : Char} (hc : p c) : c ≠ sep := by
    rintro rfl
    exact hsep hc
  have hchain {word : List Char} (hword : Word p word) :
      word.IsChain fun a b => a ≠ sep ∨ b ≠ sep := by
    refine List.isChain_iff_forall_rel_of_append_cons_cons.2 fun a b front back hsplit => ?_
    exact .inl (hoff (hword.all a (by simp [hsplit])))
  induction words with
  | nil => exact .nil
  | cons word later ih =>
    obtain ⟨hword, hlater⟩ := List.forall_mem_cons.1 h
    cases later with
    | nil =>
      rw [List.intercalate_singleton]
      exact hchain hword
    | cons next others =>
      have hhead : ∀ c ∈ (List.intercalate [sep] (next :: others)).head?, p c :=
        head?_intercalate hlater
      rw [List.intercalate_cons_cons, List.append_assoc, List.singleton_append,
        List.isChain_append]
      refine ⟨hchain hword, List.isChain_cons.2 ⟨fun c hc => ?_, ih hlater⟩, fun c hc d _ => ?_⟩
      · exact .inr (hoff (hhead c hc))
      · exact .inl (hoff (hword.all c (List.mem_of_getLast? hc)))

/-- Every run of characters outside the class becomes one mark, which stands where the run ends. -/
def collapse (p : Char → Bool) (mark : Char) : List Char → List Char
  | [] => []
  | c :: rest =>
    if p c then c :: collapse p mark rest
    else if rest.head?.any (!p ·) then collapse p mark rest
    else mark :: collapse p mark rest

/-- The mark that stands for a run outside the class at the start of a text. -/
def leadingMark (p : Char → Bool) (mark : Char) (cs : List Char) : List Char :=
  if cs.head?.any (!p ·) then [mark] else []

theorem collapse_eq (p : Char → Bool) (mark : Char) (cs : List Char) :
    ∃ back, (∀ c ∈ back, c = mark) ∧ collapse p mark cs
      = leadingMark p mark cs ++ List.intercalate [mark] (runs p cs) ++ back := by
  induction cs with
  | nil => exact ⟨[], nofun, rfl⟩
  | cons c rest ih =>
    obtain ⟨back, hback, hrest⟩ := ih
    by_cases hc : p c
    · have hlead : leadingMark p mark (c :: rest) = [] := by simp [leadingMark, hc]
      rw [collapse, if_pos hc, hrest, hlead]
      cases rest with
      | nil => exact ⟨back, hback, by simp [runs, runsFrom, hc, leadingMark]⟩
      | cons d rest =>
        by_cases hd : p d
        · refine ⟨back, hback, ?_⟩
          rw [runs_cons_pos hc, runsFrom_cons_pos hd, runs_cons_pos hd, intercalate_cons_head]
          simp [leadingMark, hd]
        · have hword : Word p [c] := ⟨by simp, by simpa using hc⟩
          have hruns : runs p (c :: d :: rest) = [c] :: runs p (d :: rest) :=
            runs_append hword (by simpa using hd)
          rw [hruns]
          -- without a word behind it the mark is at the end
          cases hlater : runs p (d :: rest) with
          | nil => exact ⟨mark :: back, by simpa using hback, by simp [leadingMark, hd]⟩
          | cons word words => exact ⟨back, hback, by simp [leadingMark, hd]⟩
    · have hlead : leadingMark p mark (c :: rest) = [mark] := by simp [leadingMark, hc]
      refine ⟨back, hback, ?_⟩
      rw [collapse, if_neg hc, hrest, hlead, runs_cons_neg hc, leadingMark]
      split
      · rfl
      · simp

/-- With the marks at both ends dropped, the words are left, joined by one mark. -/
theorem trimChars_collapse (hmark : ¬ p sep) (cs : List Char) :
    trimChars (· = sep) (collapse p sep cs) = List.intercalate [sep] (runs p cs) := by
  obtain ⟨back, hback, hcollapse⟩ := collapse_eq p sep cs
  have hfront : ∀ c ∈ leadingMark p sep cs, decide (c = sep) := by
    unfold leadingMark
    split <;> simp
  have hwords : ∀ word ∈ runs p cs, Word p word := fun word hword => word_of_mem_runs hword
  rw [hcollapse, trimChars_surround hfront (by simpa using hback)]
  refine trimChars_of_ends ?_ ?_
  · rintro h
    obtain ⟨c, hc, hsep⟩ := (Option.any_eq_true _ _).1 h
    exact hmark (of_decide_eq_true hsep ▸ head?_intercalate hwords c hc)
  · rintro h
    obtain ⟨c, hc, hsep⟩ := (Option.any_eq_true _ _).1 h
    exact hmark (of_decide_eq_true hsep ▸ getLast?_intercalate hwords c hc)

/-- A text spelled anew: the characters of words one by one, and those between words as some that do
not make words either. -/
inductive Respells (p q : Char → Bool) (f : Char → Char) : List Char → List Char → Prop
  | nil : Respells p q f [] []
  | word {c : Char} {cs ds : List Char} (hc : p c) (hf : q (f c)) (h : Respells p q f cs ds) :
      Respells p q f (c :: cs) (f c :: ds)
  | gap {c : Char} {block cs ds : List Char} (hc : ¬ p c) (hne : block ≠ [])
      (hblock : ∀ d ∈ block, ¬ q d) (h : Respells p q f cs ds) :
      Respells p q f (c :: cs) (block ++ ds)

variable {f : Char → Char} {ds : List Char}

theorem Respells.runsFrom (h : Respells p q f cs ds) :
    runsFrom q ds = ((runsFrom p cs).1.map f, (runsFrom p cs).2.map (·.map f)) ∧
      runs q ds = (runs p cs).map (·.map f) := by
  induction h with
  | nil => exact ⟨rfl, rfl⟩
  | word hc hf _ ih =>
    rw [runsFrom_cons_pos hc, runsFrom_cons_pos hf, runs_cons_pos hc, runs_cons_pos hf, ih.1]
    exact ⟨rfl, rfl⟩
  | gap hc hne hblock _ ih =>
    obtain ⟨d, block, rfl⟩ := List.exists_cons_of_ne_nil hne
    obtain ⟨hd, hblock⟩ := List.forall_mem_cons.1 hblock
    rw [List.cons_append, runsFrom_cons_neg hc, runs_cons_neg hc, runsFrom_cons_neg hd,
      runs_cons_neg hd, runs_gap hblock, ih.2]
    exact ⟨rfl, rfl⟩

/-- The words of a text that is spelled anew are its words, spelled anew. -/
theorem Respells.runs (h : Respells p q f cs ds) : runs q ds = (runs p cs).map (·.map f) :=
  h.runsFrom.2

end Groundwork.Text
