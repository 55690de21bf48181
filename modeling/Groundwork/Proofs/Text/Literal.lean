import Groundwork.Field.Annotation

/-!
# String literals

What a string literal of a source stands for: its characters up to the first quote that is not
escaped, with each escape replaced by its character. An escape is longer than what it stands for, so
a text that is put between quotes as it is reads back as itself only if it has no quote and no
backslash. With both of them escaped every text reads back.

A code point that is written with four digits is no escape of a literal. It is replaced before any
literal is read.
-/

namespace Groundwork

namespace Field

/-- What stands for a character between quotes: a quote and a backslash get a backslash in front. -/
def escapedChar (c : Char) : List Char :=
  if c = '\x22' ∨ c = '\\' then ['\\', c] else [c]

/-- Two replacements come to one pass, since the backslashes that quotes get are put in after the
others were doubled. -/
theorem toList_escapedPattern (pattern : String) :
    (escapedPattern pattern).toList = pattern.toList.flatMap escapedChar := by
  have hchar (c : Char) : escapeMark '\x22' (if c = '\\' then ['\\', c] else [c])
      = escapedChar c := by
    by_cases hbackslash : c = '\\'
    · rw [hbackslash]
      rfl
    · by_cases hquote : c = '\x22'
      · rw [hquote]
        rfl
      · simp [escapeMark, escapedChar, hbackslash, hquote]
  rw [escapedPattern, String.toList_ofList]
  unfold escapeMark at hchar ⊢
  rw [List.flatMap_assoc]
  exact congrArg (pattern.toList.flatMap ·) (funext hchar)

end Field

namespace Text

/-- Where the reader of a literal stands: between characters, after a backslash, or after some octal
digits, with the number of digits that may follow. -/
inductive LiteralMode where
  | plain
  | escape
  | octal (value left : Nat)

namespace LiteralMode

/-- The characters that stand for others after a backslash. -/
def escapes : List (Char × Char) :=
  [('b', '\x08'), ('t', '\t'), ('n', '\n'), ('f', '\x0c'), ('r', '\r'), ('s', ' '), ('\x22', '\x22'),
    ('\x27', '\x27'), ('\\', '\\')]

def octalDigit? (c : Char) : Option Nat :=
  if '0' ≤ c ∧ c ≤ '7' then some (c.toNat - '0'.toNat) else none

/-- What a character outside of escapes brings, and where the reader stands after it. A quote ends
the literal, and a line end must not come before it. -/
def plainStep (c : Char) : Option (List Char × Option LiteralMode) :=
  if c = '\x22' then some ([], none)
  else if c = '\\' then some ([], some escape)
  else if c = '\n' ∨ c = '\r' then none
  else some ([c], some plain)

/-- An octal escape has up to three digits, and stands for no more than 255. -/
def step : LiteralMode → Char → Option (List Char × Option LiteralMode)
  | plain, c => plainStep c
  | escape, c =>
    match octalDigit? c with
    | some d => some ([], some (octal d (if d ≤ 3 then 2 else 1)))
    | none => (escapes.lookup c).map fun e => ([e], some plain)
  | octal value left, c =>
    match octalDigit? c with
    | some d =>
      if left = 1 then some ([.ofNat (8 * value + d)], some plain)
      else some ([], some (octal (8 * value + d) (left - 1)))
    | none => (plainStep c).map fun (out, next) => (.ofNat value :: out, next)

/-- What stands up to the end of a literal, and what comes after it. -/
def read : LiteralMode → List Char → Option (List Char × List Char)
  | _, [] => none
  | q, c :: cs =>
    match step q c with
    | none => none
    | some (out, none) => some (out, cs)
    | some (out, some q') => (read q' cs).map fun (more, rest) => (out ++ more, rest)

/-- By how much what is read so far is at least longer than what it stands for. -/
def slack : LiteralMode → Nat
  | plain => 0
  | escape => 1
  | octal .. => 2

end LiteralMode

/-- What the literal stands for that a text begins with. -/
def literal? : List Char → Option String
  | '\x22' :: cs => (LiteralMode.plain.read cs).map fun found => .ofList found.1
  | _ => none

namespace LiteralMode

variable {q q' : LiteralMode} {c : Char} {cs out raw rest : List Char}

theorem plainStep_end (h : plainStep c = some (out, none)) : c = '\x22' ∧ out = [] := by
  unfold plainStep at h
  split at h
  · rename_i hc
    cases h
    exact ⟨hc, rfl⟩
  · split at h
    · cases h
    · split at h <;> cases h

theorem plainStep_next (h : plainStep c = some (out, some q')) :
    out = [c] ∧ q' = plain ∧ c ≠ '\x22' ∧ c ≠ '\\' ∨ out = [] ∧ q' = escape := by
  unfold plainStep at h
  split at h
  · cases h
  · rename_i hquote
    split at h
    · cases h
      exact .inr ⟨rfl, rfl⟩
    · rename_i hbackslash
      split at h
      · cases h
      · cases h
        exact .inl ⟨rfl, rfl, hquote, hbackslash⟩

/-- A literal ends with a quote that stands for nothing. -/
theorem step_end (h : step q c = some (out, none)) :
    c = '\x22' ∧ (out.length < q.slack ∨ q = plain ∧ out = []) := by
  cases q with
  | plain =>
    obtain ⟨hc, hout⟩ := plainStep_end h
    exact ⟨hc, .inr ⟨rfl, hout⟩⟩
  | escape =>
    rw [step] at h
    split at h
    · cases h
    · obtain ⟨e, -, h⟩ := Option.map_eq_some_iff.1 h
      cases h
  | octal value left =>
    rw [step] at h
    split at h
    · split at h <;> cases h
    · obtain ⟨⟨out', next⟩, hplain, h⟩ := Option.map_eq_some_iff.1 h
      cases h
      obtain ⟨hc, rfl⟩ := plainStep_end hplain
      exact ⟨hc, .inl (by simp [slack])⟩

/-- A step does not bring more than it takes, and what was not taken over as it is has become
shorter when the reader is between characters again. -/
theorem step_next (h : step q c = some (out, some q')) :
    out.length + q'.slack ≤ q.slack + 1 ∧
      (q' = plain → out.length < q.slack + 1 ∨
        q = plain ∧ out = [c] ∧ c ≠ '\x22' ∧ c ≠ '\\') := by
  cases q with
  | plain =>
    rcases plainStep_next h with ⟨rfl, rfl, hc⟩ | ⟨rfl, rfl⟩
    · exact ⟨by simp [slack], fun _ => .inr ⟨rfl, rfl, hc⟩⟩
    · exact ⟨by simp [slack], nofun⟩
  | escape =>
    rw [step] at h
    split at h
    · cases h
      exact ⟨by simp [slack], nofun⟩
    · obtain ⟨e, -, h⟩ := Option.map_eq_some_iff.1 h
      cases h
      exact ⟨by simp [slack], fun _ => .inl (by simp [slack])⟩
  | octal value left =>
    rw [step] at h
    split at h
    · split at h
      · cases h
        exact ⟨by simp [slack], fun _ => .inl (by simp [slack])⟩
      · cases h
        exact ⟨by simp [slack], nofun⟩
    · obtain ⟨⟨out', next⟩, hplain, h⟩ := Option.map_eq_some_iff.1 h
      cases h
      rcases plainStep_next hplain with ⟨rfl, rfl, -⟩ | ⟨rfl, rfl⟩
      · exact ⟨by simp [slack], fun _ => .inl (by simp [slack])⟩
      · exact ⟨by simp [slack], nofun⟩

/-- What stands up to the quote that ends a literal is longer than what it stands for, or has
neither quotes nor backslashes and stands for itself. -/
theorem read_sound (h : read q cs = some (out, rest)) :
    ∃ raw, cs = raw ++ '\x22' :: rest ∧
      (out.length < raw.length + q.slack ∨
        q = plain ∧ out = raw ∧ '\x22' ∉ raw ∧ '\\' ∉ raw) := by
  induction cs generalizing q out with
  | nil => cases h
  | cons c cs ih =>
    unfold read at h
    split at h
    · cases h
    · rename_i out' hstep
      cases h
      obtain ⟨rfl, hout⟩ := step_end hstep
      refine ⟨[], rfl, ?_⟩
      rcases hout with hshort | ⟨rfl, rfl⟩
      · exact .inl (by simpa using hshort)
      · exact .inr ⟨rfl, rfl, List.not_mem_nil, List.not_mem_nil⟩
    · rename_i out' q' hstep
      obtain ⟨⟨more, rest'⟩, hread, h⟩ := Option.map_eq_some_iff.1 h
      cases h
      obtain ⟨raw, rfl, hmore⟩ := ih hread
      obtain ⟨hlength, hcopied⟩ := step_next hstep
      refine ⟨c :: raw, rfl, ?_⟩
      rw [List.length_append, List.length_cons]
      rcases hmore with hshort | ⟨rfl, rfl, hquote, hbackslash⟩
      · exact .inl (by omega)
      · rcases hcopied rfl with hshort | ⟨rfl, rfl, hc⟩
        · exact .inl (by omega)
        · refine .inr ⟨rfl, rfl, ?_, ?_⟩
          · rw [List.mem_cons, not_or]
            exact ⟨Ne.symm hc.1, hquote⟩
          · rw [List.mem_cons, not_or]
            exact ⟨Ne.symm hc.2, hbackslash⟩

/-- A character that is no quote, no backslash and no line end stands for itself. -/
theorem read_plain (hc : c ≠ '\x22' ∧ c ≠ '\\' ∧ c ≠ '\n' ∧ c ≠ '\r') :
    read plain (c :: cs) = (read plain cs).map fun (more, rest) => (c :: more, rest) := by
  obtain ⟨hquote, hbackslash, hend, hreturn⟩ := hc
  have hstep : step plain c = some ([c], some plain) := by
    rw [step, plainStep, if_neg hquote, if_neg hbackslash, if_neg (by simp [hend, hreturn])]
  rw [read, hstep]
  rfl

theorem read_escaped (hc : c = '\x22' ∨ c = '\\') :
    read plain ('\\' :: c :: cs) = (read plain cs).map fun (more, rest) => (c :: more, rest) := by
  have hfirst : step plain '\\' = some ([], some escape) := rfl
  have hsecond : step escape c = some ([c], some plain) := by
    rcases hc with rfl | rfl <;> rfl
  rw [read, hfirst]
  dsimp only
  rw [read, hsecond, Option.map_map]
  rfl

end LiteralMode

open LiteralMode Field

variable {s : String} {c : Char} {cs rest : List Char}

theorem read_self (h : ∀ c ∈ cs, c ≠ '\x22' ∧ c ≠ '\\' ∧ c ≠ '\n' ∧ c ≠ '\r') :
    plain.read (cs ++ '\x22' :: rest) = some (cs, rest) := by
  induction cs with
  | nil => rfl
  | cons c cs ih =>
    rw [List.cons_append, read_plain (h c List.mem_cons_self),
      ih fun d hd => h d (List.mem_cons_of_mem _ hd)]
    rfl

/-- A text that is put between quotes reads back as itself if it has no quote and no backslash, and
otherwise it does not. -/
theorem literal?_quoted (hends : '\n' ∉ s.toList ∧ '\r' ∉ s.toList) (hrest : '\x22' ∉ rest) :
    literal? ('\x22' :: (s.toList ++ '\x22' :: rest)) = some s ↔
      '\x22' ∉ s.toList ∧ '\\' ∉ s.toList := by
  rw [literal?]
  constructor
  · intro h
    obtain ⟨⟨value, rest'⟩, hread, hvalue⟩ := Option.map_eq_some_iff.1 h
    have hchars : value = s.toList := by
      rw [← hvalue, String.toList_ofList]
    subst hchars
    obtain ⟨raw, hraw, hout⟩ := read_sound hread
    have hprefix : raw <+: s.toList := by
      rcases List.append_eq_append_iff.1 hraw with ⟨more, hlonger, hsplit⟩ | ⟨more, hshorter, -⟩
      · cases more with
        | nil =>
          exact ⟨[], by rw [hlonger, List.append_nil, List.append_nil]⟩
        | cons d more =>
          have hin : '\x22' ∈ rest := by
            rw [(List.cons.inj hsplit).2]
            exact List.mem_append_right _ List.mem_cons_self
          exact absurd hin hrest
      · exact ⟨more, hshorter.symm⟩
    rcases hout with hshort | ⟨-, hsame, hquote, hbackslash⟩
    · have hle := hprefix.length_le
      have hslack : plain.slack = 0 := rfl
      omega
    · rw [hsame]
      exact ⟨hquote, hbackslash⟩
  · rintro ⟨hquote, hbackslash⟩
    have hplain : ∀ c ∈ s.toList, c ≠ '\x22' ∧ c ≠ '\\' ∧ c ≠ '\n' ∧ c ≠ '\r' := by
      intro c hc
      refine ⟨?_, ?_, ?_, ?_⟩
      all_goals
        rintro rfl
      · exact hquote hc
      · exact hbackslash hc
      · exact hends.1 hc
      · exact hends.2 hc
    rw [read_self hplain, Option.map_some]
    exact congrArg some String.ofList_toList

/-- A pattern is escaped before it is put between quotes, and so it always reads back. -/
theorem literal?_escapedPattern (hends : '\n' ∉ s.toList ∧ '\r' ∉ s.toList) :
    literal? ('\x22' :: ((escapedPattern s).toList ++ '\x22' :: rest)) = some s := by
  have hescaped : ∀ cs : List Char, '\n' ∉ cs ∧ '\r' ∉ cs →
      plain.read (cs.flatMap escapedChar ++ '\x22' :: rest) = some (cs, rest) := by
    intro cs
    induction cs with
    | nil => exact fun _ => rfl
    | cons c cs ih =>
      intro hends
      simp only [List.mem_cons, not_or] at hends
      have hcs := ih ⟨hends.1.2, hends.2.2⟩
      rw [List.flatMap_cons, List.append_assoc, escapedChar]
      by_cases hc : c = '\x22' ∨ c = '\\'
      · rw [if_pos hc, List.cons_append, List.cons_append, List.nil_append, read_escaped hc, hcs]
        rfl
      · have hplain : c ≠ '\x22' ∧ c ≠ '\\' ∧ c ≠ '\n' ∧ c ≠ '\r' :=
          ⟨fun h => hc (.inl h), fun h => hc (.inr h), Ne.symm hends.1.1, Ne.symm hends.2.1⟩
        rw [if_neg hc, List.cons_append, List.nil_append, read_plain hplain, hcs]
        rfl
  rw [literal?, toList_escapedPattern, hescaped s.toList hends, Option.map_some]
  exact congrArg some String.ofList_toList

end Text

end Groundwork
