import Groundwork.Proofs.Origin

/-!
# Balanced braces

A text is balanced if it closes every brace that it opens, and none before it is opened. Reading
keeps the number of braces that are open, and fails at a brace that closes nothing. What is read
after some text depends on this number only, so balanced texts can stand anywhere.
-/

namespace Groundwork.Text

/-- The number of braces that are open after a text, if `n` were open in front of it and none is
closed that is not open. -/
def openAfter? (n : Nat) : List Char → Option Nat
  | [] => some n
  | c :: cs =>
    if c = '\x7b' then openAfter? (n + 1) cs
    else if c = '\x7d' then if n = 0 then none else openAfter? (n - 1) cs
    else openAfter? n cs

/-- Every brace that is opened is closed, and none is closed before it is opened. -/
structure Balanced (cs : List Char) : Prop where
  count : cs.count '\x7b' = cs.count '\x7d'
  front : ∀ front, front <+: cs → front.count '\x7d' ≤ front.count '\x7b'

variable {n m : Nat} {c : Char} {cs cs' : List Char} {s : String}

theorem openAfter?_append (n : Nat) (cs cs' : List Char) :
    openAfter? n (cs ++ cs') = (openAfter? n cs).bind fun m => openAfter? m cs' := by
  induction cs generalizing n with
  | nil => rfl
  | cons c rest ih =>
    simp only [List.cons_append, openAfter?]
    split
    · exact ih _
    · split
      · split
        · rfl
        · exact ih _
      · exact ih n

/-- More braces may be open around a text. -/
theorem openAfter?_add (h : openAfter? n cs = some m) (k : Nat) :
    openAfter? (n + k) cs = some (m + k) := by
  induction cs generalizing n with
  | nil =>
    cases h
    rfl
  | cons c rest ih =>
    rw [openAfter?] at h ⊢
    split at h
    · rename_i hopen
      rw [if_pos hopen, Nat.add_right_comm]
      exact ih h
    · rename_i hno
      rw [if_neg hno]
      split at h
      · rename_i hclose
        rw [if_pos hclose]
        split at h
        · cases h
        · rename_i hn
          have hmore : n + k - 1 = n - 1 + k := by omega
          rw [if_neg (by omega), hmore]
          exact ih h
      · rename_i hother
        rw [if_neg hother]
        exact ih h

theorem openAfter?_of_lacks (h : ∀ c ∈ cs, c ≠ '\x7b' ∧ c ≠ '\x7d') : openAfter? n cs = some n := by
  induction cs with
  | nil => rfl
  | cons c rest ih =>
    obtain ⟨⟨hopen, hclose⟩, hrest⟩ := List.forall_mem_cons.1 h
    rw [openAfter?, if_neg hopen, if_neg hclose]
    exact ih hrest

/-- Reading counts the braces. -/
theorem count_of_openAfter? (h : openAfter? n cs = some m) :
    n + cs.count '\x7b' = m + cs.count '\x7d' := by
  induction cs generalizing n with
  | nil =>
    cases h
    rfl
  | cons c rest ih =>
    rw [openAfter?] at h
    split at h
    · rename_i hopen
      subst hopen
      have hrest := ih h
      rw [List.count_cons_self, List.count_cons_of_ne (by decide)]
      omega
    · rename_i hno
      split at h
      · rename_i hclose
        subst hclose
        split at h
        · cases h
        · have hrest := ih h
          rw [List.count_cons_self, List.count_cons_of_ne (by decide)]
          omega
      · rename_i hother
        rw [List.count_cons_of_ne hno, List.count_cons_of_ne hother]
        exact ih h

theorem balanced_of_openAfter? (h : openAfter? 0 cs = some 0) : Balanced cs := by
  constructor
  · have hcount := count_of_openAfter? h
    omega
  · rintro front ⟨rest, rfl⟩
    rw [openAfter?_append] at h
    obtain ⟨k, hk, -⟩ := Option.bind_eq_some_iff.1 h
    have hcount := count_of_openAfter? hk
    omega

/-- A text is read through while no front of it closes more than is open. -/
theorem openAfter?_isSome (h : ∀ front, front <+: cs → front.count '\x7d' ≤ n + front.count '\x7b') :
    (openAfter? n cs).isSome := by
  induction cs generalizing n with
  | nil => rfl
  | cons c rest ih =>
    rw [openAfter?]
    have hnext (front : List Char) (hf : front <+: rest) :
        (c :: front).count '\x7d' ≤ n + (c :: front).count '\x7b' :=
      h _ ((List.prefix_cons_inj c).2 hf)
    split
    · rename_i hopen
      subst hopen
      refine ih fun front hf => ?_
      have hfront := hnext front hf
      rw [List.count_cons_self, List.count_cons_of_ne (by decide)] at hfront
      omega
    · rename_i hno
      split
      · rename_i hclose
        subst hclose
        have hfirst := hnext [] List.nil_prefix
        rw [if_neg (by simp at hfirst; omega)]
        refine ih fun front hf => ?_
        have hfront := hnext front hf
        rw [List.count_cons_self, List.count_cons_of_ne (by decide)] at hfront
        omega
      · rename_i hother
        refine ih fun front hf => ?_
        have hfront := hnext front hf
        rwa [List.count_cons_of_ne hother, List.count_cons_of_ne hno] at hfront

theorem balanced_iff : Balanced cs ↔ openAfter? 0 cs = some 0 := by
  constructor
  · intro h
    have hread : (openAfter? 0 cs).isSome :=
      openAfter?_isSome fun front hf => by simpa using h.front front hf
    obtain ⟨m, hm⟩ := Option.isSome_iff_exists.1 hread
    have hcount := count_of_openAfter? hm
    have hbalance := h.count
    have hm0 : m = 0 := by omega
    rw [hm, hm0]
  · exact balanced_of_openAfter?

namespace Balanced

/-- A balanced text changes nothing about what is open. -/
theorem openAfter? (h : Balanced cs) (n : Nat) : Text.openAfter? n cs = some n := by
  have hadd := openAfter?_add (balanced_iff.1 h) n
  simpa using hadd

theorem append (h : Balanced cs) (h' : Balanced cs') : Balanced (cs ++ cs') := by
  rw [balanced_iff, openAfter?_append, h.openAfter?]
  exact h'.openAfter? 0

theorem of_lacks (h : ∀ c ∈ cs, c ≠ '\x7b' ∧ c ≠ '\x7d') : Balanced cs :=
  balanced_of_openAfter? (openAfter?_of_lacks h)

theorem nil : Balanced [] :=
  of_lacks fun _ => nofun

/-- A balanced text in braces. -/
theorem braced (h : Balanced cs) : Balanced ('\x7b' :: cs ++ ['\x7d']) := by
  rw [balanced_iff, List.cons_append]
  show Text.openAfter? 1 (cs ++ ['\x7d']) = some 0
  rw [openAfter?_append, h.openAfter?]
  rfl

theorem intercalate {sep : List Char} {parts : List (List Char)} (hsep : Balanced sep)
    (h : ∀ part ∈ parts, Balanced part) : Balanced (sep.intercalate parts) := by
  induction parts with
  | nil => exact nil
  | cons part rest ih =>
    obtain ⟨hpart, hrest⟩ := List.forall_mem_cons.1 h
    cases rest with
    | nil => simpa using hpart
    | cons next more =>
      rw [List.intercalate_cons_cons]
      exact (hpart.append hsep).append (ih hrest)

end Balanced

theorem Lacks.balanced {marks : List Char} (hmarks : ['\x7b', '\x7d'] ⊆ marks)
    (h : Lacks marks s) : Balanced s.toList := by
  refine .of_lacks fun c hc => ⟨?_, ?_⟩
  · rintro rfl
    exact h _ (hmarks (by decide)) hc
  · rintro rfl
    exact h _ (hmarks (by decide)) hc

end Groundwork.Text

namespace Groundwork.Value

open Text

/-- The braces of a written value are balanced, if none of its texts has any. -/
theorem Lacks.balanced {v : Value} (h : v.Lacks ['\x7b', '\x7d']) : Balanced v.written.toList := by
  have hplain (s : String) (hs : Text.Lacks ['\x7b', '\x7d'] s) : Balanced s.toList :=
    hs.balanced (List.Subset.refl _)
  have hscalar (s : String) (hs : Scalar s.toList) : Balanced s.toList :=
    hplain s (lacks_of_scalar (by decide) hs)
  have hparts {parts : List String} (hall : ∀ part ∈ parts, Balanced part.toList) :
      Balanced (", ".intercalate parts).toList := by
    rw [String.toList_intercalate]
    refine .intercalate (hplain _ (by decide)) fun part hpart => ?_
    obtain ⟨part', hpart', rfl⟩ := List.mem_map.1 hpart
    exact hall part' hpart'
  have hcomposes : Composes fun s => Balanced s.toList := by
    constructor
    case scalar => exact hscalar
    case list =>
      intro parts hall
      simp only [String.toList_append]
      exact ((hplain _ (by decide)).append (hparts hall)).append (hplain _ (by decide))
    case entry =>
      intro key part hkey hpart
      simp only [String.toList_append]
      exact (hkey.append (hplain _ (by decide))).append hpart
    case object =>
      intro parts hall
      simp only [String.toList_append]
      exact (hparts hall).braced
  have hquoted : Balanced v.quoted.toList := by
    refine hcomposes.quoted v fun t ht => hplain _ fun m hm hin => ?_
    have hno : ∀ m ∈ ['\x7b', '\x7d'], ¬ isScalarChar m := List.any_eq_false.1 (by decide)
    exact h t ht m hm ((mem_quotedText hin).resolve_left (hno m hm))
  cases v with
  | text s => exact hplain s (h s List.mem_cons_self)
  | null | bool _ | int _ | float _ | list _ | object _ => exact hquoted

end Groundwork.Value
