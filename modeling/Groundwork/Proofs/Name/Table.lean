import Groundwork.Proofs.Name.Slug
import Groundwork.Proofs.Sheet

/-!
# Names of tables

A class name is cut into words by one scan from left to right, which goes on behind both letters of
a cut. No cut is missed, since the capital letter of one is never the small letter of the next: an
underscore comes to stand wherever a capital letter follows a small one, and nowhere else. The words
in small letters are then put in the plural, which depends on how the last one ends.
-/

namespace Groundwork

namespace Text

/-- What is left of a text without the characters at the positions that `gone` picks. -/
def without (gone : Nat → Bool) : List Char → List Char
  | [] => []
  | c :: rest =>
    if gone 0 then without (fun i => gone (i + 1)) rest
    else c :: without (fun i => gone (i + 1)) rest

end Text

namespace Name

open Text Text.CaseMap

variable {c d : Char} {cs rest : List Char} {j : Nat} {word several ending : String}

/-- At this position a word ends: a small letter stands there, and a capital one behind it. -/
def WordEnds (cs : List Char) (i : Nat) : Prop :=
  cs[i]?.any isLowerLetter ∧ cs[i + 1]?.any isUpperLetter

instance (cs : List Char) (i : Nat) : Decidable (WordEnds cs i) :=
  inferInstanceAs (Decidable (_ ∧ _))

theorem not_isLowerLetter (h : isUpperLetter c) : ¬ isLowerLetter c := by
  have hword : isWordChar c := by simp [isWordChar, h]
  exact of_ascii (P := fun c => isUpperLetter c → ¬ isLowerLetter c) (by decide) hword h

/-- The second letter of a cut is passed over, but there is no cut behind it. -/
theorem separateWords_capital (h : isUpperLetter d) (rest : List Char) :
    separateWords (d :: rest) = d :: separateWords rest := by
  cases rest with
  | nil => rfl
  | cons e rest =>
    have hnone : ¬ (isLowerLetter d && isUpperLetter e) := by
      rw [Bool.and_eq_true]
      exact fun hcut => not_isLowerLetter h hcut.1
    rw [separateWords, if_neg hnone]

/-- One step of the scan, told by what stands at the position. -/
theorem separateWords_cons (c : Char) (rest : List Char) : separateWords (c :: rest)
    = (if WordEnds (c :: rest) 0 then [c, '_'] else [c]) ++ separateWords rest := by
  cases rest with
  | nil => simp [separateWords, WordEnds]
  | cons d rest =>
    have hcut : (isLowerLetter c && isUpperLetter d) = true ↔ WordEnds (c :: d :: rest) 0 := by
      simp [WordEnds]
    rw [separateWords]
    by_cases h : WordEnds (c :: d :: rest) 0
    · rw [if_pos h, if_pos (hcut.2 h), separateWords_capital h.2]
      rfl
    · rw [if_neg h, if_neg (mt hcut.1 h)]
      rfl

/-- The scan looks at every position by itself. -/
theorem separateWords_eq (cs : List Char) : separateWords cs
    = (cs.mapIdx fun i c => if WordEnds cs i then [c, '_'] else [c]).flatten := by
  induction cs with
  | nil => rfl
  | cons c rest ih =>
    rw [separateWords_cons, ih, List.mapIdx_cons, List.flatten_cons]
    rfl

/-- How many words of a text end before a position. -/
def endsBefore (cs : List Char) (i : Nat) : Nat :=
  (List.range i).countP fun k => WordEnds cs k

/-- The positions of the underscores between the words: each stands behind the end of a word, moved
on by the underscores before it. -/
def InsertedAt (cs : List Char) (j : Nat) : Prop :=
  ∃ i < cs.length, WordEnds cs i ∧ j = i + 1 + endsBefore cs i

instance (cs : List Char) (j : Nat) : Decidable (InsertedAt cs j) :=
  inferInstanceAs (Decidable (∃ i < cs.length, WordEnds cs i ∧ j = i + 1 + endsBefore cs i))

theorem endsBefore_cons_succ (c : Char) (rest : List Char) (i : Nat) :
    endsBefore (c :: rest) (i + 1)
      = endsBefore rest i + if WordEnds (c :: rest) 0 then 1 else 0 := by
  rw [endsBefore, List.range_succ_eq_map, List.countP_cons, List.countP_map]
  simp only [decide_eq_true_eq]
  rfl

/-- The mark behind the first character, and those behind the others. -/
theorem insertedAt_cons (c : Char) (rest : List Char) (j : Nat) : InsertedAt (c :: rest) j ↔
    WordEnds (c :: rest) 0 ∧ j = 1 ∨
      ∃ k, InsertedAt rest k ∧ j = k + 1 + if WordEnds (c :: rest) 0 then 1 else 0 := by
  constructor
  · rintro ⟨i, hi, hends, hj⟩
    cases i with
    | zero => exact .inl ⟨hends, hj⟩
    | succ i =>
      rw [endsBefore_cons_succ] at hj
      exact .inr ⟨i + 1 + endsBefore rest i, ⟨i, Nat.lt_of_succ_lt_succ hi, hends, rfl⟩, by omega⟩
  · rintro (⟨hends, rfl⟩ | ⟨k, ⟨i, hi, hends, rfl⟩, rfl⟩)
    · exact ⟨0, Nat.zero_lt_succ _, hends, rfl⟩
    · refine ⟨i + 1, Nat.succ_lt_succ hi, hends, ?_⟩
      rw [endsBefore_cons_succ]
      omega

theorem getElem?_of_insertedAt (h : InsertedAt cs j) : (separateWords cs)[j]? = some '_' := by
  induction cs generalizing j with
  | nil =>
    obtain ⟨i, hi, -⟩ := h
    cases hi
  | cons c rest ih =>
    rw [separateWords_cons]
    rcases (insertedAt_cons c rest j).1 h with ⟨hends, rfl⟩ | ⟨k, hk, rfl⟩
    · rw [if_pos hends]
      rfl
    · split <;> exact ih hk

/-- Without the marks the text is what it was. -/
theorem without_insertedAt (cs : List Char) :
    without (fun j => InsertedAt cs j) (separateWords cs) = cs := by
  induction cs with
  | nil => rfl
  | cons c rest ih =>
    -- what the first character gives is one or two characters long, and as far the others move on
    have hzero : ¬ InsertedAt (c :: rest) 0 := by
      rintro ⟨i, -, -, hj⟩
      omega
    rw [separateWords_cons]
    by_cases hends : WordEnds (c :: rest) 0
    · have hone : InsertedAt (c :: rest) 1 := (insertedAt_cons c rest 1).2 (.inl ⟨hends, rfl⟩)
      have hlater (j : Nat) : InsertedAt (c :: rest) (j + 1 + 1) ↔ InsertedAt rest j := by
        simp [insertedAt_cons, hends]
      simp [without, hzero, hone, hlater, hends, ih]
    · have hlater (j : Nat) : InsertedAt (c :: rest) (j + 1) ↔ InsertedAt rest j := by
        simp [insertedAt_cons, hends]
      simp [without, hzero, hlater, hends, ih]

/-- The endings behind which the plural takes a syllable. -/
def hissing : List String := ["s", "sh", "ch", "x", "z"]

/-- The plurals of a word, by its ending. -/
inductive PluralOf : String → String → Prop
  | ies (stem : String) : PluralOf (stem ++ "y") (stem ++ "ies")
  | es (stem : String) {ending : String} (h : ending ∈ hissing) :
      PluralOf (stem ++ ending) (stem ++ ending ++ "es")
  | s {word : String} (h : ∀ ending ∈ "y" :: hissing, ∀ stem, word ≠ stem ++ ending) :
      PluralOf word (word ++ "s")

theorem any_hissing_iff :
    hissing.any (endsWith word) ↔ ∃ ending ∈ hissing, ∃ stem, word = stem ++ ending := by
  simp only [List.any_eq_true, endsWith_iff_append]

/-- What ends in a hissing sound does not end in a vowel. -/
theorem append_hissing_ne (h : ending ∈ hissing) (stem front : String) :
    stem ++ ending ≠ front ++ "y" := by
  have hlast : hissing.all fun e => e.toList.getLast?.any (· != 'y') := by decide
  obtain ⟨c, hc, hne⟩ := (Option.any_eq_true _ _).1 (List.all_eq_true.1 hlast ending h)
  intro hsame
  have hends := congrArg (fun s => s.toList.getLast?) hsame
  simp only [String.toList_append, List.getLast?_append] at hends
  rw [hc] at hends
  exact bne_iff_ne.1 hne (Option.some.inj hends)

theorem pluralOf_plural (word : String) : PluralOf word (plural word) := by
  rw [plural]
  cases hdrop : dropEnding? word "y" with
  | some stem =>
    rw [dropEnding?_eq_some.1 hdrop]
    exact .ies stem
  | none =>
    by_cases hany : hissing.any (endsWith word)
    · obtain ⟨ending, hending, stem, rfl⟩ := any_hissing_iff.1 hany
      exact (if_pos hany).symm ▸ .es stem hending
    · have hnone : ∀ ending ∈ hissing, ∀ stem, word ≠ stem ++ ending :=
        fun ending hending stem hword => hany (any_hissing_iff.2 ⟨ending, hending, stem, hword⟩)
      exact (if_neg hany).symm ▸ .s (List.forall_mem_cons.2 ⟨dropEnding?_eq_none.1 hdrop, hnone⟩)

/-- Every word has one plural. -/
theorem pluralOf_iff : PluralOf word several ↔ several = plural word := by
  constructor
  · intro h
    cases h with
    | ies stem => rw [plural, dropEnding?_eq_some.2 rfl]
    | es stem h =>
      rw [plural, dropEnding?_eq_none.2 (append_hissing_ne h stem)]
      exact (if_pos (any_hissing_iff.2 ⟨_, h, stem, rfl⟩)).symm
    | s h =>
      obtain ⟨hy, hhissing⟩ := List.forall_mem_cons.1 h
      rw [plural, dropEnding?_eq_none.2 hy]
      refine (if_neg fun hany => ?_).symm
      obtain ⟨ending, hending, stem, hword⟩ := any_hissing_iff.1 hany
      exact hhissing ending hending stem hword
  · rintro rfl
    exact pluralOf_plural word

theorem getLast?_plural (word : String) : (plural word).toList.getLast? = some 's' := by
  have h := pluralOf_plural word
  generalize plural word = several at h ⊢
  cases h <;> simp

/-- Small letters, digits and underscores, with no underscore first and none behind another. -/
structure Underscored (cs : List Char) : Prop where
  chars : ∀ c ∈ cs, isSlugChar c ∨ c = '_'
  first : cs.head? ≠ some '_'
  single : cs.IsChain fun a b => a ≠ '_' ∨ b ≠ '_'

theorem ne_underscore (h : isSlugChar c) : c ≠ '_' := by
  rintro rfl
  exact absurd h (by decide)

namespace Underscored

theorem cons (hc : isSlugChar c) (h : Underscored cs) : Underscored (c :: cs) where
  chars := List.forall_mem_cons.2 ⟨.inl hc, h.chars⟩
  first hfirst := ne_underscore hc (Option.some.inj hfirst)
  single := List.isChain_cons.2 ⟨fun _ _ => .inl (ne_underscore hc), h.single⟩

theorem mark (hc : isSlugChar c) (h : Underscored cs) : Underscored (c :: '_' :: cs) where
  chars := List.forall_mem_cons.2 ⟨.inl hc, List.forall_mem_cons.2 ⟨.inr rfl, h.chars⟩⟩
  first hfirst := ne_underscore hc (Option.some.inj hfirst)
  single := by
    refine List.isChain_cons_cons.2 ⟨.inl (ne_underscore hc), List.isChain_cons.2 ⟨?_, h.single⟩⟩
    rintro d hd
    refine .inr ?_
    rintro rfl
    exact h.first hd

theorem of_append {front back : List Char} (h : Underscored (front ++ back)) :
    Underscored front where
  chars c hc := h.chars c (List.mem_append_left _ hc)
  first hfirst := by
    refine h.first ?_
    rw [List.head?_append, hfirst]
    rfl
  single := (List.isChain_append.1 h.single).1

theorem append {front back : List Char} (h : Underscored front)
    (hback : ∀ c ∈ back, isSlugChar c) : Underscored (front ++ back) := by
  have hall : Underscored back := by
    induction back with
    | nil => exact ⟨nofun, nofun, .nil⟩
    | cons c back ih =>
      obtain ⟨hc, hback⟩ := List.forall_mem_cons.1 hback
      exact (ih hback).cons hc
  constructor
  · intro c hc
    exact (List.mem_append.1 hc).elim (h.chars c) (hall.chars c)
  · rw [List.head?_append]
    intro hfirst
    rcases Option.or_eq_some_iff.1 hfirst with hfront | ⟨-, hback⟩
    · exact h.first hfront
    · exact hall.first hback
  · refine List.isChain_append.2 ⟨h.single, hall.single, fun _ _ d hd => .inr ?_⟩
    exact ne_underscore (hback d (List.mem_of_head? hd))

/-- A plural changes the end of a word only. -/
theorem plural (h : Underscored word.toList) : Underscored (plural word).toList := by
  have hplural := pluralOf_plural word
  generalize Name.plural word = several at hplural ⊢
  cases hplural with
  | ies stem =>
    rw [String.toList_append] at h ⊢
    exact h.of_append.append (List.all_eq_true.1 (by decide))
  | es stem _ =>
    rw [String.toList_append]
    exact h.append (List.all_eq_true.1 (by decide))
  | s _ =>
    rw [String.toList_append]
    exact h.append (List.all_eq_true.1 (by decide))

end Underscored

/-- Letters and digits with their words marked, in small letters. -/
theorem underscored_lowerFrom (h : ∀ c ∈ cs, isWordChar c) (before : List Char) :
    Underscored (lowerFrom before (separateWords cs)) := by
  induction cs generalizing before with
  | nil => exact ⟨nofun, nofun, .nil⟩
  | cons c rest ih =>
    obtain ⟨hc, hrest⟩ := List.forall_mem_cons.1 h
    have hsmall : isSlugChar c.toLower := ((lowerChar_ascii (toNat_lt_of_isWordChar hc)).1 hc).2
    have hmark : Small '_' := by decide +kernel
    rw [separateWords_cons]
    split
    · rw [List.cons_append, List.singleton_append, lowerFrom_cons, lowerOne_of_isWordChar hc,
        lowerFrom_cons, lowerOne, if_neg hmark.1, hmark.2]
      exact .mark hsmall (ih hrest _)
    · rw [List.singleton_append, lowerFrom_cons, lowerOne_of_isWordChar hc]
      exact .cons hsmall (ih hrest _)

/-- One underscore is put behind each small letter that a capital one follows, and without these
underscores the class name is back. In small letters and in the plural this is the name of the
table, which ends in an `s`. If the class name is made of letters and digits, the name of the table
is made of small letters, digits and single underscores between them. -/
theorem table_separates_words (name : String) :
    let cs := name.toList
    let marked := separateWords cs
    marked = (cs.mapIdx fun i c => if WordEnds cs i then [c, '_'] else [c]).flatten ∧
      (∀ j, InsertedAt cs j → marked[j]? = some '_') ∧
      without (fun j => InsertedAt cs j) marked = cs ∧
      (∀ t, t = table name ↔ PluralOf (lower (.ofList marked)) t) ∧
      table name ≠ "" ∧ (table name).toList.getLast? = some 's' ∧
      ((∀ c ∈ cs, isWordChar c) →
        (∀ c ∈ (table name).toList, isSlugChar c ∨ c = '_') ∧
        (table name).toList.head? ≠ some '_' ∧ (table name).toList.getLast? ≠ some '_' ∧
        ¬ ['_', '_'] <:+: (table name).toList) := by
  intro cs marked
  have htable : table name = plural (lower (.ofList marked)) := by
    rw [table, lower, String.toList_ofList]
  have hlast : (table name).toList.getLast? = some 's' := htable ▸ getLast?_plural _
  refine ⟨separateWords_eq cs, fun j => getElem?_of_insertedAt, without_insertedAt cs, fun t => ?_,
    ?_, hlast, fun hword => ?_⟩
  · rw [htable, pluralOf_iff]
  · intro hempty
    rw [hempty] at hlast
    cases hlast
  · have hsnake : Underscored (lower (.ofList marked)).toList := by
      rw [lower, String.toList_ofList, String.toList_ofList]
      exact underscored_lowerFrom hword []
    have hall : Underscored (table name).toList := htable ▸ hsnake.plural
    refine ⟨hall.chars, hall.first, ?_, not_infix_of_isChain hall.single⟩
    rw [hlast]
    decide

/-- The letters take turns, and the scan passes over every other one of them. -/
theorem table_separates_words_in_turns :
    let cs := "aBcDeFy".toList
    (∀ c ∈ cs, isWordChar c) ∧ separateWords cs = "a_Bc_De_Fy".toList ∧
      without (fun j => InsertedAt cs j) "a_Bc_De_Fy".toList = cs ∧
      table "aBcDeFy" = "a_bc_de_fies" ∧ ¬ ['_', '_'] <:+: "a_bc_de_fies".toList := by
  intro cs
  have hword : ∀ c ∈ cs, isWordChar c := List.all_eq_true.1 (by decide)
  have hmarked : separateWords cs = "a_Bc_De_Fy".toList := by decide
  have htable : table "aBcDeFy" = "a_bc_de_fies" := by decide +kernel
  obtain ⟨-, -, hwithout, -, -, -, hspelled⟩ := table_separates_words "aBcDeFy"
  obtain ⟨-, -, -, hsingle⟩ := hspelled hword
  rw [htable] at hsingle
  exact ⟨hword, hmarked, hmarked ▸ hwithout, htable, hsingle⟩

-- capital letters side by side are one word with what follows them
example : table "HTTPLog" = "httplogs" := by
  decide +kernel

end Name

end Groundwork
