import Groundwork.Proofs.Name
import Groundwork.Value.Written

/-!
# What values are written with

A value is written with its texts, and with what all values have in common: the words and digits of
truth values and numbers, the quotes and escapes of texts inside lists, and the brackets of lists
and objects.
-/

namespace Groundwork

namespace Value

mutual

/-- The texts in a value, the names of entries among them. -/
def texts : Value → List String
  | text s => [s]
  | list items => textsOfItems items
  | object entries => textsOfEntries entries
  | null | bool _ | int _ | float _ => []
termination_by structural v => v

def textsOfItems : List Value → List String
  | [] => []
  | v :: rest => texts v ++ textsOfItems rest
termination_by structural vs => vs

def textsOfEntries : List (String × Value) → List String
  | [] => []
  | (key, v) :: rest => key :: (texts v ++ textsOfEntries rest)
termination_by structural es => es

end

variable {t : String} {c : Char} {items : List Value} {entries : List (String × Value)}

theorem mem_textsOfItems : t ∈ textsOfItems items ↔ ∃ v ∈ items, t ∈ v.texts := by
  induction items with
  | nil => simp [textsOfItems]
  | cons v rest ih => simp [textsOfItems, ih]

theorem mem_textsOfEntries :
    t ∈ textsOfEntries entries ↔ ∃ e ∈ entries, t = e.1 ∨ t ∈ e.2.texts := by
  induction entries with
  | nil => simp [textsOfEntries]
  | cons e rest ih => simp [textsOfEntries, ih, or_assoc]

theorem texts_of_item {v : Value} (hv : v ∈ items) : v.texts ⊆ (list items).texts :=
  fun _ ht => mem_textsOfItems.2 ⟨v, hv, ht⟩

theorem texts_of_entry {e : String × Value} (he : e ∈ entries) :
    e.2.texts ⊆ (object entries).texts :=
  fun _ ht => mem_textsOfEntries.2 ⟨e, he, .inr ht⟩

/-- What numbers, truth values, quotes and escapes are written with. -/
def isScalarChar (c : Char) : Bool :=
  c.isAlphanum || "\\\x27\x22+-.".toList.contains c

/-- Nothing but what scalars are written with. -/
def Scalar (cs : List Char) : Prop :=
  ∀ c ∈ cs, isScalarChar c

instance (cs : List Char) : Decidable (Scalar cs) :=
  List.decidableBAll (isScalarChar · = true) cs

variable {cs cs' : List Char}

theorem Scalar.append (h : Scalar cs) (h' : Scalar cs') : Scalar (cs ++ cs') := by
  intro c hc
  rcases List.mem_append.1 hc with hc | hc
  · exact h c hc
  · exact h' c hc

theorem Scalar.cons (hc : isScalarChar c) (h : Scalar cs) : Scalar (c :: cs) :=
  List.forall_mem_cons.2 ⟨hc, h⟩

theorem Scalar.take (h : Scalar cs) (n : Nat) : Scalar (cs.take n) :=
  fun c hc => h c (List.mem_of_mem_take hc)

theorem Scalar.drop (h : Scalar cs) (n : Nat) : Scalar (cs.drop n) :=
  fun c hc => h c (List.mem_of_mem_drop hc)

theorem scalar_toDigits (n : Nat) : Scalar (Nat.toDigits 10 n) := by
  intro c hc
  have hdigit := Nat.isDigit_of_mem_toDigits (by decide) (by decide) hc
  simp [isScalarChar, Char.isAlphanum, hdigit]

theorem scalar_repr (n : Nat) : Scalar n.repr.toList := by
  rw [Nat.repr, String.toList_ofList]
  exact scalar_toDigits n

theorem scalar_int (n : Int) : Scalar n.repr.toList := by
  cases n with
  | ofNat k => exact scalar_repr k
  | negSucc k =>
    rw [Int.repr, String.toList_append]
    exact Scalar.append (by decide) (scalar_repr _)

theorem scalar_zeros (n : Nat) : Scalar (Decimal.zeros n) := by
  intro c hc
  rw [List.eq_of_mem_replicate hc]
  decide

theorem scalar_write (style : Decimal.Style) (d : Decimal.Digits) : Scalar (style.write d) := by
  have hdigits := scalar_toDigits d.digits
  unfold Decimal.Style.write
  dsimp only
  split
  · split
    · exact (Scalar.cons (by decide) (.cons (by decide) (scalar_zeros _))).append hdigits
    · split
      · exact (hdigits.append (scalar_zeros _)).append (by decide)
      · exact (hdigits.take _).append (.cons (by decide) (hdigits.drop _))
  · have hfraction : Scalar (if (Nat.toDigits 10 d.digits).length ≤ 1 then []
        else '.' :: (Nat.toDigits 10 d.digits).drop 1) := by
      split
      · exact fun _ => nofun
      · exact .cons (by decide) (hdigits.drop 1)
    have hsign : isScalarChar (if d.point - 1 < 0 then '-' else '+') := by
      split
      · decide
      · decide
    have hexponent (n : Nat) := (Scalar.cons hsign (scalar_zeros n)).cons (c := 'e') (by decide)
    exact (((hdigits.take 1).append hfraction).append (hexponent _)).append (scalar_toDigits _)

theorem scalar_float (x : Float) : Scalar (Decimal.text x).toList := by
  unfold Decimal.text
  dsimp only
  split
  · split
    · decide
    · split
      · decide
      · decide
  · rename_i b _
    rw [String.toList_ofList]
    have hbody : Scalar (if b.mantissa = 0 then ['0', '.', '0']
        else Decimal.plainStyle.write b.shortest) := by
      split
      · decide
      · exact scalar_write _ _
    split
    · exact hbody.cons (by decide)
    · exact hbody

theorem scalar_hexDigits (digits n : Nat) : Scalar (Text.hexDigits digits n) := by
  have hall : ∀ k < 16, isScalarChar (Text.hexDigit k) := by decide
  induction digits generalizing n with
  | zero => exact fun _ => nofun
  | succ digits ih =>
    have hlast : Scalar [Text.hexDigit (n % 16)] :=
      .cons (hall _ (Nat.mod_lt n (by decide))) fun _ => nofun
    exact (ih _).append hlast

theorem scalar_hexEscape (d : Char) : Scalar (Text.hexEscape d) := by
  have hescape (letter : Char) (hletter : isScalarChar letter) (digits : Nat) :
      Scalar ('\\' :: letter :: Text.hexDigits digits d.toNat) :=
    .cons (by decide) (.cons hletter (scalar_hexDigits _ _))
  unfold Text.hexEscape
  dsimp only
  split
  · exact hescape 'x' (by decide) 2
  · split
    · exact hescape 'u' (by decide) 4
    · exact hescape 'U' (by decide) 8

/-- A quoted text has its own characters, quotes and escapes. -/
theorem mem_quotedText {s : String} (h : c ∈ (Text.quoted s).toList) :
    isScalarChar c ∨ c ∈ s.toList := by
  have hmark : isScalarChar (Text.quoteMark s.toList) := by
    unfold Text.quoteMark
    split
    · decide
    · decide
  have hchar {d : Char} (h : c ∈ Text.quotedChar (Text.quoteMark s.toList) d) :
      isScalarChar c ∨ c = d := by
    have hescaped {cs : List Char} (hs : Scalar cs) (h : c ∈ cs) : isScalarChar c ∨ c = d := .inl (hs c h)
    unfold Text.quotedChar at h
    split at h
    · rcases List.mem_cons.1 h with rfl | h
      · exact .inl (by decide)
      · exact .inr (List.mem_singleton.1 h)
    · split at h
      · exact hescaped (by decide) h
      · split at h
        · exact hescaped (by decide) h
        · split at h
          · exact hescaped (by decide) h
          · split at h
            · exact .inr (List.mem_singleton.1 h)
            · exact hescaped (scalar_hexEscape d) h
  rw [Text.quoted, String.toList_ofList, List.mem_append, List.mem_cons, List.mem_flatMap,
    List.mem_singleton] at h
  rcases h with (rfl | ⟨d, hd, h⟩) | rfl
  · exact .inl hmark
  · exact (hchar h).imp_right fun (he : c = d) => he ▸ hd
  · exact .inl hmark

/-- What is kept where the parts of a written value are put together. -/
structure Composes (P : String → Prop) : Prop where
  scalar : ∀ s : String, Scalar s.toList → P s
  list : ∀ parts, (∀ part ∈ parts, P part) → P ("[" ++ ", ".intercalate parts ++ "]")
  entry : ∀ key part, P key → P part → P (key ++ ": " ++ part)
  object : ∀ parts, (∀ part ∈ parts, P part) →
    P ("\x7b" ++ ", ".intercalate parts ++ "\x7d")

section Parts

variable {P : String → Prop}

mutual

/-- What holds of the quoted texts of a value, and of all that is written without texts, holds of
the written value if it is kept. -/
theorem Composes.quoted (hP : Composes P) :
    ∀ v : Value, (∀ t ∈ v.texts, P (Text.quoted t)) → P v.quoted
  | .null, _ => hP.scalar _ (by decide)
  | .bool false, _ => hP.scalar _ (by decide)
  | .bool true, _ => hP.scalar _ (by decide)
  | .int n, _ => hP.scalar _ (scalar_int n)
  | .float x, _ => hP.scalar _ (scalar_float x)
  | .text s, h => h s List.mem_cons_self
  | .list items, h => hP.list _ (hP.quotedItems items h)
  | .object entries, h => hP.object _ (hP.quotedEntries entries h)
termination_by structural v => v

theorem Composes.quotedItems (hP : Composes P) : ∀ vs : List Value,
    (∀ t ∈ textsOfItems vs, P (Text.quoted t)) → ∀ part ∈ Value.quotedItems vs, P part
  | [], _ => fun _ => nofun
  | v :: rest, h => List.forall_mem_cons.2
    ⟨hP.quoted v fun t ht => h t (List.mem_append_left _ ht),
      hP.quotedItems rest fun t ht => h t (List.mem_append_right _ ht)⟩
termination_by structural vs => vs

theorem Composes.quotedEntries (hP : Composes P) : ∀ es : List (String × Value),
    (∀ t ∈ textsOfEntries es, P (Text.quoted t)) → ∀ part ∈ Value.quotedEntries es, P part
  | [], _ => fun _ => nofun
  | (key, v) :: rest, h => List.forall_mem_cons.2
    ⟨hP.entry _ _ (h key List.mem_cons_self) (hP.quoted v fun t ht =>
        h t (List.mem_cons_of_mem key (List.mem_append_left _ ht))),
      hP.quotedEntries rest fun t ht =>
        h t (List.mem_cons_of_mem key (List.mem_append_right _ ht))⟩
termination_by structural es => es

end

end Parts

/-- What values are written with, apart from their texts. -/
def isNotation (c : Char) : Bool :=
  isScalarChar c || "[]\x7b\x7d,: ".toList.contains c

/-- Every character of a written value is of one of its texts, or there for all values. -/
theorem mem_written {v : Value} (h : c ∈ v.written.toList) :
    isNotation c ∨ ∃ t ∈ v.texts, c ∈ t.toList := by
  by_cases hno : isNotation c
  · exact .inl hno
  by_cases hnone : ∃ t ∈ v.texts, c ∈ t.toList
  · exact .inr hnone
  -- then no part of what is written has the character
  have habsent (cs : List Char) (hcs : cs.all isNotation) : c ∉ cs :=
    fun hc => hno (List.all_eq_true.1 hcs c hc)
  have hparts {parts : List String} (hparts : ∀ part ∈ parts, c ∉ part.toList) :
      c ∉ (", ".intercalate parts).toList := by
    rw [String.toList_intercalate]
    intro hc
    rcases Text.mem_of_mem_intercalate hc with hc | ⟨part, hpart, hc⟩
    · exact habsent _ (by decide) hc
    · obtain ⟨part', hpart', rfl⟩ := List.mem_map.1 hpart
      exact hparts part' hpart' hc
  have hcomposes : Composes fun s => c ∉ s.toList := by
    constructor
    case scalar =>
      intro s hs hc
      exact hno (by rw [isNotation, hs c hc, Bool.true_or])
    case list =>
      intro parts hall
      simp only [String.toList_append, List.mem_append, not_or]
      exact ⟨⟨habsent _ (by decide), hparts hall⟩, habsent _ (by decide)⟩
    case entry =>
      intro key part hkey hpart
      simp only [String.toList_append, List.mem_append, not_or]
      exact ⟨⟨hkey, habsent _ (by decide)⟩, hpart⟩
    case object =>
      intro parts hall
      simp only [String.toList_append, List.mem_append, not_or]
      exact ⟨⟨habsent _ (by decide), hparts hall⟩, habsent _ (by decide)⟩
  have hquoted : c ∉ v.quoted.toList := by
    refine hcomposes.quoted v fun t ht hc => ?_
    rcases mem_quotedText hc with hscalar | hin
    · exact hno (by rw [isNotation, hscalar, Bool.true_or])
    · exact hnone ⟨t, ht, hin⟩
  cases v with
  | text s => exact absurd ⟨s, List.mem_cons_self, h⟩ hnone
  | null | bool _ | int _ | float _ | list _ | object _ => exact absurd h hquoted

end Value

end Groundwork
