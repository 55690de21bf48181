import Groundwork.Text.Cut

/-!
# Occurrences

The searches find what occurs and nothing else. An occurrence outlives an insertion, unless the
insertion is made inside it; reading with one kind of line end loses no occurrence of a text
without carriage returns.
-/

namespace Groundwork.Text

variable {anchor part cs before after l r : List Char}

theorem cutFirst?_isSome : (cutFirst? anchor cs).isSome ↔ anchor <:+: cs := by
  induction cs with
  | nil =>
    rw [List.infix_nil, cutFirst?]
    split <;> simp_all
  | cons c rest ih =>
    rw [List.infix_cons_iff, ← ih, cutFirst?]
    split
    · rename_i h
      simp [List.isPrefixOf_iff_prefix.1 h]
    · rename_i h
      rw [List.isPrefixOf_iff_prefix] at h
      simp [h]

theorem cutLast?_isSome : (cutLast? anchor cs).isSome ↔ anchor <:+: cs := by
  induction cs with
  | nil =>
    rw [List.infix_nil, cutLast?]
    split <;> simp_all
  | cons c rest ih =>
    rw [List.infix_cons_iff, ← ih, cutLast?]
    cases cutLast? anchor rest with
    | some p => simp
    | none =>
      dsimp only
      split
      · rename_i h
        simp [List.isPrefixOf_iff_prefix.1 h]
      · rename_i h
        rw [List.isPrefixOf_iff_prefix] at h
        simp [h]

theorem prefix_of_cutFirst? (h : cutFirst? anchor cs = some (before, after)) :
    anchor <+: after := by
  induction cs generalizing before with
  | nil =>
    simp only [cutFirst?] at h
    split at h <;> simp_all
  | cons c rest ih =>
    simp only [cutFirst?] at h
    split at h
    · rename_i hp
      cases h
      exact List.isPrefixOf_iff_prefix.1 hp
    · obtain ⟨⟨b, a⟩, hr, he⟩ := Option.map_eq_some_iff.1 h
      cases he
      exact ih hr

theorem prefix_of_cutLast? (h : cutLast? anchor cs = some (before, after)) :
    anchor <+: after := by
  induction cs generalizing before with
  | nil =>
    simp only [cutLast?] at h
    split at h <;> simp_all
  | cons c rest ih =>
    simp only [cutLast?] at h
    split at h
    · rename_i b a hr
      cases h
      exact ih hr
    · split at h
      · rename_i hp
        cases h
        exact List.isPrefixOf_iff_prefix.1 hp
      · cases h

theorem occursIn_iff {s whole : String} : occursIn s whole ↔ s.toList <:+: whole.toList :=
  cutFirst?_isSome

/-- No occurrence of `part` begins in `l` and ends in `r`. -/
def Uncut (part l r : List Char) : Prop :=
  ∀ a b, part = a ++ b → a ≠ [] → b ≠ [] → a <:+ l → ¬ b <+: r

/-- What does not lie across a border lies before it or behind it. -/
theorem occurrence_cases (h : Uncut part l r) (hin : before ++ part ++ after = l ++ r) :
    (∃ rest, l = before ++ part ++ rest) ∨
      ∃ front, before = l ++ front ∧ r = front ++ part ++ after := by
  rw [List.append_assoc] at hin
  rcases List.append_eq_append_iff.1 hin with ⟨a, hl, hr⟩ | ⟨b, hb, hr⟩
  · rcases List.append_eq_append_iff.1 hr with ⟨x, ha, -⟩ | ⟨b, hb, ht⟩
    · exact .inl ⟨x, by rw [hl, ha, List.append_assoc]⟩
    · by_cases ha0 : a = []
      · refine .inr ⟨[], ?_, ?_⟩
        · rw [hl, ha0, List.append_nil, List.append_nil]
        · rw [hb, ha0, ht]
          rfl
      · by_cases hb0 : b = []
        · refine .inl ⟨[], ?_⟩
          rw [hb, hb0, hl, List.append_nil, List.append_nil]
        · exact absurd ⟨after, ht.symm⟩ (h a b hb ha0 hb0 ⟨before, hl.symm⟩)
  · exact .inr ⟨b, hb, by rw [hr, List.append_assoc]⟩

theorem infix_append_iff (h : Uncut part l r) :
    part <:+: l ++ r ↔ part <:+: l ∨ part <:+: r := by
  constructor
  · rintro ⟨s, t, hin⟩
    rcases occurrence_cases h hin with ⟨rest, hl⟩ | ⟨front, -, hr⟩
    · exact .inl ⟨s, rest, hl.symm⟩
    · exact .inr ⟨front, t, hr.symm⟩
  · rintro (h | h)
    · exact h.trans (List.prefix_append l r).isInfix
    · exact h.trans (List.suffix_append l r).isInfix

/-- An occurrence that does not lie across the place of an insertion stays. -/
theorem infix_insert (m : List Char) (h : part <:+: l ++ r) (huncut : Uncut part l r) :
    part <:+: l ++ m ++ r := by
  rcases (infix_append_iff huncut).1 h with h | h
  · rw [List.append_assoc]
    exact h.trans (List.prefix_append l (m ++ r)).isInfix
  · exact h.trans (List.suffix_append (l ++ m) r).isInfix

/-- No occurrence of `part` begins before an occurrence of `anchor` and reaches into it. -/
def Clear (part anchor : List Char) : Prop :=
  ∀ k < part.length, k ≠ 0 → ¬ part.drop k <+: anchor ∧ ¬ anchor <+: part.drop k

instance (part anchor : List Char) : Decidable (Clear part anchor) :=
  inferInstanceAs (Decidable (∀ k < part.length, _))

/-- No occurrence of `part` begins in `l` and reaches beyond it. -/
def Blunt (part l : List Char) : Prop :=
  ∀ k < part.length, k ≠ 0 → ¬ part.take k <:+ l

instance (part l : List Char) : Decidable (Blunt part l) :=
  inferInstanceAs (Decidable (∀ k < part.length, _))

theorem Clear.uncut (hclear : Clear part anchor) (hanchor : anchor <+: r) (l : List Char) :
    Uncut part l r := by
  intro a b hab ha hb _ hbr
  have hk : a.length < part.length := by
    have := List.length_pos_iff.2 hb
    rw [hab, List.length_append]
    omega
  have hdrop : part.drop a.length = b := by rw [hab, List.drop_left]
  obtain ⟨hshort, hlong⟩ := hclear a.length hk (by simpa using ha)
  rw [hdrop] at hshort hlong
  rcases List.prefix_or_prefix_of_prefix hbr hanchor with h | h
  · exact hshort h
  · exact hlong h

theorem Blunt.uncut (hblunt : Blunt part l) (r : List Char) : Uncut part l r := by
  intro a b hab ha hb hal _
  have hk : a.length < part.length := by
    have := List.length_pos_iff.2 hb
    rw [hab, List.length_append]
    omega
  refine hblunt a.length hk (by simpa using ha) ?_
  rwa [hab, List.take_left]

/-- After a character that `part` does not have nothing is cut. -/
theorem blunt_of_not_mem {c : Char} (hc : c ∉ part) (l : List Char) : Blunt part (l ++ [c]) := by
  intro k hk hk0 h
  have ha : part.take k ≠ [] := by
    rw [ne_eq, List.take_eq_nil_iff, not_or]
    exact ⟨hk0, List.ne_nil_of_length_pos (Nat.lt_of_le_of_lt (Nat.zero_le k) hk)⟩
  have hlast : (part.take k).getLast ha = c := by
    rw [h.getLast ha, List.getLast_concat]
  exact hc (List.take_subset k part (hlast ▸ List.getLast_mem ha))

theorem uncut_of_not_mem {c : Char} (hc : c ∉ part) (l r : List Char) :
    Uncut part (l ++ [c]) r :=
  (blunt_of_not_mem hc l).uncut r

/-- What begins in none of some texts and reaches beyond it occurs in one of them. -/
theorem infix_flatten_iff (hne : part ≠ []) {texts : List (List Char)}
    (h : ∀ l ∈ texts, Blunt part l) : part <:+: texts.flatten ↔ ∃ l ∈ texts, part <:+: l := by
  induction texts with
  | nil => simp [hne]
  | cons l rest ih =>
    rw [List.flatten_cons, infix_append_iff ((h l List.mem_cons_self).uncut _),
      ih fun l' hl' => h l' (List.mem_cons_of_mem l hl')]
    simp only [List.mem_cons, exists_eq_or_imp]

/-- No occurrence of `part` begins in `anchor`, or before it and reaches into it. -/
def Foreign (part anchor : List Char) : Prop :=
  ∀ k < part.length, ¬ part.drop k <+: anchor ∧ ¬ anchor <+: part.drop k

instance (part anchor : List Char) : Decidable (Foreign part anchor) :=
  inferInstanceAs (Decidable (∀ k < part.length, _))

theorem Foreign.clear (h : Foreign part anchor) : Clear part anchor :=
  fun k hk _ => h k hk

theorem Foreign.not_begins (h : Foreign part anchor) (hpart : part ≠ []) (hr : anchor <+: r) :
    ¬ part <+: r := by
  intro hstart
  have hzero := h 0 (List.length_pos_iff.2 hpart)
  rw [List.drop_zero] at hzero
  rcases List.prefix_or_prefix_of_prefix hstart hr with h' | h'
  · exact hzero.1 h'
  · exact hzero.2 h'

/-- An anchor that starts with a character the text does not have never overlaps it. -/
theorem foreign_of_not_mem {c : Char} (h : c ∉ part) (rest : List Char) :
    Foreign part (c :: rest) := by
  intro k hk
  have hne : part[k] ≠ c := by
    rintro rfl
    exact h (List.getElem_mem hk)
  rw [List.drop_eq_getElem_cons hk]
  constructor
  · intro hp
    exact hne (List.cons_prefix_cons.1 hp).1
  · intro hp
    exact hne (List.cons_prefix_cons.1 hp).1.symm

/-- The first occurrence of `anchor` is the one with none before it. -/
theorem cutFirst?_append (hne : anchor ≠ []) (hl : ¬ anchor <:+: l)
    (huncut : Uncut anchor l (anchor ++ r)) :
    cutFirst? anchor (l ++ (anchor ++ r)) = some (l, anchor ++ r) := by
  induction l with
  | nil =>
    rw [List.nil_append]
    cases hcs : anchor ++ r with
    | nil => exact absurd (List.append_eq_nil_iff.1 hcs).1 hne
    | cons c rest =>
      rw [cutFirst?, if_pos]
      rw [List.isPrefixOf_iff_prefix, ← hcs]
      exact List.prefix_append anchor r
  | cons c l ih =>
    have hlater : ¬ anchor <:+: l := fun h => hl (h.trans (List.suffix_cons c l).isInfix)
    have hstart : ¬ anchor.isPrefixOf (c :: (l ++ (anchor ++ r))) = true := by
      rw [List.isPrefixOf_iff_prefix, ← List.cons_append]
      intro h
      rcases List.prefix_or_prefix_of_prefix h (List.prefix_append (c :: l) _) with h' | ⟨b, hb⟩
      · exact hl h'.isInfix
      · -- the occurrence would begin with the whole of `c :: l`
        have hb0 : b ≠ [] := by
          rintro rfl
          exact hl ⟨[], [], by rw [← hb, List.append_nil, List.nil_append, List.append_nil]⟩
        refine huncut (c :: l) b hb.symm (List.cons_ne_nil c l) hb0 List.suffix_rfl ?_
        have hwhole : (c :: l) ++ b <+: (c :: l) ++ (anchor ++ r) := by
          rwa [hb]
        exact (List.prefix_append_right_inj _).1 hwhole
    rw [List.cons_append, cutFirst?, if_neg hstart, ih hlater]
    · rfl
    · exact fun a b hab ha hb hal => huncut a b hab ha hb (hal.trans (List.suffix_cons c l))

/-- An occurrence that is the last one stays so behind other text. -/
theorem cutLast?_append {anchor before after : List Char}
    (h : cutLast? anchor r = some (before, after)) (l : List Char) :
    cutLast? anchor (l ++ r) = some (l ++ before, after) := by
  induction l with
  | nil => exact h
  | cons d l ih => rw [List.cons_append, cutLast?, ih, List.cons_append]

/-- The last occurrence of a character is the one that none follows. -/
theorem cutLast?_append_cons {c : Char} (h : c ∉ r) (l : List Char) :
    cutLast? [c] (l ++ c :: r) = some (l, c :: r) := by
  have hnone : cutLast? [c] r = none := by
    rw [← Option.not_isSome_iff_eq_none, cutLast?_isSome]
    intro hin
    exact h (hin.subset List.mem_cons_self)
  have hfirst : cutLast? [c] (c :: r) = some ([], c :: r) := by
    rw [cutLast?, hnone]
    simp
  rw [cutLast?_append hfirst l, List.append_nil]

theorem unifyLineEnds_cons {c : Char} (h : c ≠ '\r') (rest : List Char) :
    unifyLineEnds (c :: rest) = c :: unifyLineEnds rest := by
  rw [unifyLineEnds]
  · rintro x rfl; exact absurd rfl h
  · rintro rfl; exact absurd rfl h

theorem unifyLineEnds_of_not_mem (h : '\r' ∉ cs) : unifyLineEnds cs = cs := by
  induction cs with
  | nil => rfl
  | cons d cs ih =>
    rw [List.mem_cons, not_or] at h
    rw [unifyLineEnds_cons (Ne.symm h.1), ih h.2]

theorem prefix_unifyLineEnds (hp : '\r' ∉ part) (h : part <+: cs) :
    part <+: unifyLineEnds cs := by
  induction part generalizing cs with
  | nil => exact List.nil_prefix
  | cons c rest ih =>
    rw [List.mem_cons, not_or] at hp
    obtain ⟨t, rfl⟩ := h
    rw [List.cons_append, unifyLineEnds_cons (Ne.symm hp.1)]
    exact List.cons_prefix_cons.2 ⟨rfl, ih hp.2 (List.prefix_append rest t)⟩

theorem infix_unifyLineEnds (hp : '\r' ∉ part) (h : part <:+: cs) :
    part <:+: unifyLineEnds cs := by
  have hreturn : ∀ {rest}, part <:+: '\r' :: rest → part <:+: rest := fun {rest} h => by
    rcases List.infix_cons_iff.1 h with h | h
    · cases part with
      | nil => exact List.nil_infix
      | cons c ps =>
        obtain rfl : c = '\r' := (List.cons_prefix_cons.1 h).1
        exact absurd (List.mem_cons_self) hp
    · exact h
  have hcons : ∀ {c rest}, c ≠ '\r' → (part <:+: rest → part <:+: unifyLineEnds rest) →
      part <:+: c :: rest → part <:+: c :: unifyLineEnds rest := fun {c rest} hc ih h => by
    rcases List.infix_cons_iff.1 h with h | h
    · rw [← unifyLineEnds_cons hc]
      exact (prefix_unifyLineEnds hp h).isInfix
    · exact (ih h).trans (List.suffix_cons c _).isInfix
  fun_induction unifyLineEnds cs with
  | case1 => exact h
  | case2 rest ih => exact hcons (by decide) ih (hreturn h)
  | case3 rest hrest ih => exact (ih (hreturn h)).trans (List.suffix_cons _ _).isInfix
  | case4 c rest hc hrest ih =>
    exact hcons (fun he => hrest he) ih h

/-- Line ends of one kind make up no new beginning. -/
theorem prefix_of_unifyLineEnds (hend : '\n' ∉ part) (h : part <+: unifyLineEnds cs) :
    part <+: cs := by
  induction part generalizing cs with
  | nil => exact List.nil_prefix
  | cons c rest ih =>
    rw [List.mem_cons, not_or] at hend
    unfold unifyLineEnds at h
    split at h
    · exact absurd (List.prefix_nil.1 h) (List.cons_ne_nil c rest)
    · exact absurd (List.cons_prefix_cons.1 h).1.symm hend.1
    · exact absurd (List.cons_prefix_cons.1 h).1.symm hend.1
    · obtain ⟨rfl, hrest⟩ := List.cons_prefix_cons.1 h
      exact List.cons_prefix_cons.2 ⟨rfl, ih hend.2 hrest⟩

/-- A text without line ends occurs where it did before. -/
theorem infix_unifyLineEnds_iff (hend : '\n' ∉ part) (hreturn : '\r' ∉ part) :
    part <:+: unifyLineEnds cs ↔ part <:+: cs := by
  refine ⟨fun h => ?_, infix_unifyLineEnds hreturn⟩
  have hstep : ∀ {c rest}, (part <:+: unifyLineEnds rest → part <:+: rest) →
      part <:+: '\n' :: unifyLineEnds rest → part <:+: c :: rest := fun {c rest} ih h => by
    rcases List.infix_cons_iff.1 h with h | h
    · cases part with
      | nil => exact List.nil_infix
      | cons d ds => exact absurd (List.cons_prefix_cons.1 h).1.symm (by simp_all)
    · exact (ih h).trans (List.suffix_cons c rest).isInfix
  fun_induction unifyLineEnds cs with
  | case1 => exact h
  | case2 rest ih => exact (hstep (c := '\n') ih h).trans (List.suffix_cons _ _).isInfix
  | case3 rest hrest ih => exact hstep ih h
  | case4 c rest hc hrest ih =>
    rcases List.infix_cons_iff.1 h with h | h
    · rw [← unifyLineEnds_cons fun he => hrest he] at h
      exact (prefix_of_unifyLineEnds hend h).isInfix
    · exact (ih h).trans (List.suffix_cons c rest).isInfix

/-- Line ends are unified part by part, if no pair of them is divided. -/
theorem unifyLineEnds_append (h : l.getLast? ≠ some '\r') (r : List Char) :
    unifyLineEnds (l ++ r) = unifyLineEnds l ++ unifyLineEnds r := by
  have hrest : ∀ {c rest}, (c :: rest).getLast? ≠ some '\r' → rest.getLast? ≠ some '\r' :=
    fun {c rest} h hlast => h (by rw [List.getLast?_cons, hlast]; rfl)
  fun_induction unifyLineEnds l with
  | case1 => rfl
  | case2 rest ih => rw [List.cons_append, List.cons_append, unifyLineEnds, ih (hrest (hrest h))]; rfl
  | case3 rest hno ih =>
    cases rest with
    | nil => exact absurd rfl h
    | cons c rest =>
      have hc : c ≠ '\n' := fun he => hno rest (he ▸ rfl)
      rw [List.cons_append, List.cons_append, unifyLineEnds, ← List.cons_append, ih (hrest h)]
      · rfl
      · simpa using hc
  | case4 c rest hc hno ih =>
    rw [List.cons_append, unifyLineEnds_cons fun he => hno he, ih (hrest h)]
    rfl

end Groundwork.Text
