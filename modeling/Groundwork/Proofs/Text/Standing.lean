import Groundwork.Name
import Groundwork.Proofs.Settled

/-!
# Words that stand by themselves

A word stands in a text where no character of an identifier comes right before it, so a text
declares a method where the name of the method stands in front of a parenthesis. A text that is put
in brings the words that stand in it, and neither makes nor breaks others, unless a word could reach
across its borders.
-/

namespace Groundwork

/-- Which characters make up identifiers. Of the printable characters of ASCII these are letters,
digits, underscores and dollar signs, and a line end is none of them; the others are left open. -/
structure Name.Alphabet (part : Char → Bool) : Prop where
  ascii : ∀ c, 32 ≤ c.toNat → c.toNat < 127 →
    part c = (Name.isWordChar c || c == '_' || c == '$')
  no_end : ∀ c ∈ ['\n', '\r'], part c = false

namespace Text

variable {part : Char → Bool} {word anchor l m r cs : List Char} {c : Char}

/-- The word occurs, and what comes right before it is no part of an identifier. -/
def Stands (part : Char → Bool) (word cs : List Char) : Prop :=
  ∃ before after, before ++ word ++ after = cs ∧ ∀ c ∈ before.getLast?, part c = false

/-- The text declares a method of exactly this name. -/
def Declares (part : Char → Bool) (name text : String) : Prop :=
  Stands part (name ++ "(").toList text.toList

theorem stands_iff_drop : Stands part word cs ↔ ∃ k < cs.length + 1,
    word <+: cs.drop k ∧ ((cs.take k).getLast?.all fun c => !part c) = true := by
  constructor
  · rintro ⟨before, after, rfl, hbefore⟩
    have hlength : before.length < (before ++ word ++ after).length + 1 := by
      simp only [List.length_append]
      omega
    refine ⟨before.length, hlength, ?_, ?_⟩
    · rw [List.append_assoc, List.drop_left]
      exact List.prefix_append word after
    · rw [List.append_assoc, List.take_left, Option.all_eq_true]
      intro c hc
      rw [hbefore c hc]
      rfl
  · rintro ⟨k, -, ⟨after, hafter⟩, hbefore⟩
    refine ⟨cs.take k, after, ?_, ?_⟩
    · rw [List.append_assoc, hafter, List.take_append_drop]
    · intro c hc
      rw [Option.all_eq_true] at hbefore
      simpa using hbefore c hc

instance (part : Char → Bool) (word cs : List Char) : Decidable (Stands part word cs) :=
  decidable_of_iff _ stands_iff_drop.symm

instance (part : Char → Bool) (name text : String) : Decidable (Declares part name text) :=
  inferInstanceAs (Decidable (Stands part _ _))

theorem Stands.occurs (h : Stands part word cs) : word <:+: cs := by
  obtain ⟨before, after, hcs, -⟩ := h
  exact ⟨before, after, hcs⟩

/-- If nothing is part of an identifier, every occurrence stands by itself. -/
theorem stands_of_none : Stands (fun _ => false) word cs ↔ word <:+: cs := by
  refine ⟨Stands.occurs, ?_⟩
  rintro ⟨before, after, hcs⟩
  exact ⟨before, after, hcs, fun _ _ => rfl⟩

/-- A word that stands in two texts put together stands in one of them, if it cannot lie across the
border, and does not begin the second text where the first one would take its standing away. -/
theorem stands_append (huncut : Uncut word l r)
    (hborder : ¬ word <+: r ∨ ∀ c ∈ l.getLast?, part c = false) :
    Stands part word (l ++ r) ↔ Stands part word l ∨ Stands part word r := by
  have hlast (front : List Char) (hfront : front ≠ []) : (l ++ front).getLast? = front.getLast? := by
    rw [List.getLast?_append, List.getLast?_eq_some_getLast hfront]
    rfl
  constructor
  · rintro ⟨before, after, hcs, hbefore⟩
    rcases occurrence_cases huncut hcs with ⟨rest, rfl⟩ | ⟨front, rfl, hr⟩
    · exact .inl ⟨before, rest, rfl, hbefore⟩
    · refine .inr ⟨front, after, hr.symm, ?_⟩
      by_cases hfront : front = []
      · subst hfront
        exact nofun
      · rwa [hlast front hfront] at hbefore
  · rintro (⟨before, after, rfl, hbefore⟩ | ⟨front, after, rfl, hfront⟩)
    · exact ⟨before, after ++ r, by simp only [List.append_assoc], hbefore⟩
    · refine ⟨l ++ front, after, by simp only [List.append_assoc], ?_⟩
      by_cases hempty : front = []
      · subst hempty
        rw [List.append_nil]
        exact hborder.resolve_left (not_not_intro (List.prefix_append word after))
      · rwa [hlast front hempty]

/-- A word that could neither reach across the beginning of an insertion nor across what comes after
it stands where it stood before, or in the insertion. -/
theorem stands_insert {first : List Char} (hword : word ≠ []) (hfirst : first <+: m)
    (hstart : Foreign word first) (hlr : Uncut word l r) (hmr : Uncut word m r)
    (hborder : ¬ word <+: r ∨ (∀ c ∈ l.getLast?, part c = false) ∧ ∀ c ∈ m.getLast?, part c = false) :
    Stands part word (l ++ m ++ r) ↔ Stands part word (l ++ r) ∨ Stands part word m := by
  have hbegin : first <+: m ++ r := hfirst.trans (List.prefix_append m r)
  rw [List.append_assoc, stands_append (hstart.clear.uncut hbegin l)
      (.inl (hstart.not_begins hword hbegin)),
    stands_append hmr (hborder.imp_right And.right),
    stands_append hlr (hborder.imp_right And.left)]
  constructor
  · rintro (h | h | h)
    · exact .inl (.inl h)
    · exact .inr h
    · exact .inl (.inr h)
  · rintro ((h | h) | h)
    · exact .inl h
    · exact .inr (.inr h)
    · exact .inr (.inl h)

end Text

namespace Patch

open Text

variable {p : Patch} {part : Char → Bool} {word : List Char} {x y : String}

/-- No occurrence of the word reaches across a border of the insertion. -/
structure Apart (p : Patch) (word : List Char) : Prop where
  word_ne : word ≠ []
  starts : ∃ first, first <+: p.insertion.toList ∧ Foreign word first
  place : match p.placement with
    | .before => Foreign word p.anchor.toList
    | .afterLine => '\n' ∉ word ∧ ∃ front, p.insertion.toList = front ++ ['\n']

theorem stands_applied (hp : p.Apart word) (hend : part '\n' = false)
    (hy : p.applyTo? x = some y) : Stands part word y.toList ↔
      Stands part word x.toList ∨ Stands part word p.insertion.toList := by
  obtain ⟨l, m, r, hx, hy, hm, hr⟩ := applyTo?_parts hy
  obtain ⟨first, hfirst, hforeign⟩ := hp.starts
  have hplace := hp.place
  rw [hx, hy]
  cases hkind : p.placement with
  | before =>
    rw [hkind] at hr hplace
    have hnot : ¬ word <+: r := hplace.not_begins hp.word_ne hr
    have hinsertion : m = p.insertion.toList := by
      rcases hm with hm | ⟨-, rfl⟩
      · exact hm
      · -- a word that is foreign to the empty anchor is empty
        rw [List.prefix_nil.1 hr] at hplace
        exact absurd List.nil_prefix (hplace 0 (List.length_pos_iff.2 hp.word_ne)).2
    rw [hinsertion]
    exact stands_insert hp.word_ne hfirst hforeign (hplace.clear.uncut hr l)
      (hplace.clear.uncut hr _) (.inl hnot)
  | afterLine =>
    rw [hkind] at hr hplace
    obtain ⟨hno, front, hfront⟩ := hplace
    have hlast (cs : List Char) : ∀ c ∈ (cs ++ ['\n']).getLast?, part c = false := by
      intro c hc
      rw [List.getLast?_concat, Option.mem_some_iff] at hc
      exact hc ▸ hend
    rcases hm with rfl | ⟨rfl, rfl⟩
    · rcases hr with rfl | ⟨l', rfl⟩
      · rw [List.append_nil, List.append_nil]
        exact stands_append (hforeign.clear.uncut hfirst l)
          (.inl (hforeign.not_begins hp.word_ne hfirst))
      · refine stands_insert hp.word_ne hfirst hforeign (uncut_of_not_mem hno l' r) ?_
          (.inr ⟨hlast l', ?_⟩)
        · rw [hfront]
          exact uncut_of_not_mem hno front r
        · rw [hfront]
          exact hlast front
    · -- the last line had no end, and gets one
      have hline := foreign_of_not_mem hno p.insertion.toList
      have hnone : ¬ Stands part word ['\n'] := by
        intro h
        obtain ⟨c, rest, rfl⟩ := List.exists_cons_of_ne_nil hp.word_ne
        have hc := h.occurs.subset List.mem_cons_self
        rw [List.mem_singleton] at hc
        exact hno (hc ▸ List.mem_cons_self)
      rw [List.append_nil, List.append_nil, stands_append (hline.clear.uncut List.prefix_rfl l)
          (.inl (hline.not_begins hp.word_ne List.prefix_rfl)), ← List.singleton_append,
        stands_append (l := ['\n']) (uncut_of_not_mem hno [] _) (.inr (hlast []))]
      constructor
      · rintro (h | h | h)
        · exact .inl h
        · exact absurd h hnone
        · exact .inr h
      · rintro (h | h)
        · exact .inl h
        · exact .inr (.inr h)

/-- After a patch a word stands where it stood before, or in what the patch put in. -/
theorem stands_after (hp : p.Apart word) (hend : part '\n' = false) (hx : '\r' ∉ x.toList)
    (hreturn : '\r' ∉ p.insertion.toList) : Stands part word (p.after x).toList ↔
      Stands part word x.toList ∨
        p.statusOn (some (some x)) = .patched ∧ Stands part word p.insertion.toList := by
  by_cases hpresent : p.isPresent x
  · have hstatus : p.statusOn (some (some x)) ≠ .patched := by
      rw [statusOn, if_pos hpresent]
      decide
    rw [Done.after_eq (.inl hpresent)]
    simp only [hstatus, false_and, or_false]
  · cases hy : p.applyTo? x with
    | none =>
      have hstatus : p.statusOn (some (some x)) ≠ .patched := by
        rw [statusOn, if_neg hpresent, hy]
        decide
      rw [Done.after_eq (.inr hy)]
      simp only [hstatus, false_and, or_false]
    | some y =>
      have hstatus : p.statusOn (some (some x)) = .patched := by
        rw [statusOn, if_neg hpresent, hy]
        rfl
      have hno : '\r' ∉ y.toList := by
        obtain ⟨l, m, r, hl, hm, hins, -⟩ := applyTo?_parts hy
        rw [hl, List.mem_append, not_or] at hx
        rw [hm, List.mem_append, List.mem_append, not_or, not_or]
        refine ⟨⟨hx.1, ?_⟩, hx.2⟩
        rcases hins with rfl | ⟨rfl, -⟩
        · exact hreturn
        · simpa using hreturn
      rw [after_of_applyTo? hpresent hy hno, stands_applied hp hend hy]
      simp only [hstatus, true_and]

end Patch

end Groundwork
