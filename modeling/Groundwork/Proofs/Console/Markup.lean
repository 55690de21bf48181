import Groundwork.Console.Markup

/-!
# Markup that cannot be at fault

Only tags can be at fault, so a marked-up text is judged by the tags in it. Escaping leaves none,
whatever the text is: of an escaped text at most the backslashes at its end can reach what follows.
-/

namespace Groundwork.Console.Markup

variable {cs rest w after i : List Char} {c : Char} {f g : Found} {opened : List String}

/-- What can stand between the brackets of a tag. -/
def Inner (i : List Char) : Prop :=
  ∃ c others, i = c :: others ∧ startsTag c ∧ ∀ d ∈ others, d ≠ '[' ∧ d ≠ ']'

theorem Inner.open_not_mem (h : Inner i) : '[' ∉ i := by
  obtain ⟨c, others, rfl, hc, hothers⟩ := h
  rw [List.mem_cons, not_or]
  refine ⟨?_, fun hmem => (hothers '[' hmem).1 rfl⟩
  rintro rfl
  revert hc
  decide

theorem inside?_append (h : Inner i) (after : List Char) :
    inside? (i ++ ']' :: after) = some i := by
  obtain ⟨c, others, rfl, hc, hothers⟩ := h
  have htake : (others ++ ']' :: after).takeWhile (fun d => d != '[' && d != ']') = others := by
    rw [List.takeWhile_append_of_pos fun d hd => by simp [hothers d hd],
      List.takeWhile_cons_of_neg (by decide), List.append_nil]
  rw [List.cons_append, inside?, htake]
  simp [hc]

theorem takeWhile_append_of_getElem? {p : Char → Bool} {l : List Char} {d : Char}
    (h : l[(l.takeWhile p).length]? = some d) : ∃ after, l = l.takeWhile p ++ d :: after := by
  induction l with
  | nil => cases h
  | cons e rest ih =>
    by_cases he : p e
    · rw [List.takeWhile_cons_of_pos he] at h ⊢
      obtain ⟨after, hrest⟩ := ih h
      exact ⟨after, congrArg (e :: ·) hrest⟩
    · rw [List.takeWhile_cons_of_neg he] at h ⊢
      cases h
      exact ⟨rest, rfl⟩

theorem inner_of_inside? (h : inside? cs = some i) : Inner i ∧ ∃ after, cs = i ++ ']' :: after := by
  cases cs with
  | nil => cases h
  | cons c rest =>
    rw [inside?] at h
    split at h
    · rename_i hif
      rw [Bool.and_eq_true_iff, decide_eq_true_eq] at hif
      obtain rfl := Option.some.inj h
      obtain ⟨after, hrest⟩ := takeWhile_append_of_getElem? hif.2
      refine ⟨⟨c, _, rfl, hif.1, fun d hd => ?_⟩, after, congrArg (c :: ·) hrest⟩
      have hd' := List.all_eq_true.1 List.all_takeWhile d hd
      simpa using hd'
    · cases h

/-- The characters of a tag with the backslashes before it. -/
def Found.written (f : Found) : List Char :=
  List.replicate f.backslashes '\\' ++ '[' :: f.inside ++ [']']

theorem Found.length_written (f : Found) : f.written.length = f.length := by
  simp [written, length]
  omega

theorem takeWhile_backslashes (n : Nat) (hw : w.head? ≠ some '\\') :
    (List.replicate n '\\' ++ w).takeWhile (· = '\\') = List.replicate n '\\' := by
  rw [List.takeWhile_append_of_pos fun d hd => by simp [List.eq_of_mem_replicate hd]]
  cases w with
  | nil => rw [List.takeWhile_nil, List.append_nil]
  | cons d rest =>
    rw [List.takeWhile_cons_of_neg (by simpa using hw), List.append_nil]

theorem found?_written (h : Inner f.inside) (after : List Char) :
    found? (f.written ++ after) = some f := by
  have hcs : f.written ++ after =
      List.replicate f.backslashes '\\' ++ '[' :: (f.inside ++ ']' :: after) := by
    simp [Found.written]
  rw [hcs, found?, takeWhile_backslashes _ (by simp), List.length_replicate, List.drop_left' (by simp)]
  show (inside? (f.inside ++ ']' :: after)).map _ = some f
  rw [inside?_append h]
  rfl

theorem written_of_found? (h : found? cs = some f) :
    Inner f.inside ∧ ∃ after, cs = f.written ++ after := by
  unfold found? at h
  dsimp only at h
  split at h
  · rename_i later hdrop
    obtain ⟨i, hi, rfl⟩ := Option.map_eq_some_iff.1 h
    obtain ⟨hinner, after, rfl⟩ := inner_of_inside? hi
    refine ⟨hinner, after, ?_⟩
    have hback : cs.takeWhile (· = '\\') =
        List.replicate (cs.takeWhile (· = '\\')).length '\\' := by
      refine List.eq_replicate_iff.2 ⟨rfl, fun d hd => ?_⟩
      simpa using List.all_eq_true.1 List.all_takeWhile d hd
    calc cs
        = cs.takeWhile (· = '\\') ++ cs.drop (cs.takeWhile (· = '\\')).length :=
          (List.prefix_iff_eq_append.1 (List.takeWhile_prefix _)).symm
      _ = _ := by
          rw [hdrop, Found.written, ← hback]
          simp
  · cases h

theorem piecesFrom_pass (l : List Char) : ∀ position,
    piecesFrom l.length position (l ++ rest) = piecesFrom 0 (position + l.length) rest := by
  induction l with
  | nil => intro position; rfl
  | cons d l ih =>
    intro position
    rw [List.cons_append, List.length_cons, piecesFrom, ih]
    congr 1
    omega

theorem escapeFrom_pass (l : List Char) :
    escapeFrom l.length (l ++ rest) = l ++ escapeFrom 0 rest := by
  induction l with
  | nil => rfl
  | cons d l ih => rw [List.cons_append, List.length_cons, escapeFrom, ih, List.cons_append]

theorem piecesFrom_written (h : Inner f.inside) (position : Nat) :
    piecesFrom 0 position (f.written ++ after) =
      f.pieces position ++ piecesFrom 0 (position + f.length) after := by
  have hfound := found?_written h after
  have hlength := f.length_written
  cases hw : f.written with
  | nil => rw [hw, Found.length] at hlength; cases hlength
  | cons c l =>
    rw [hw, List.length_cons] at hlength
    rw [hw, List.cons_append] at hfound
    rw [List.cons_append, piecesFrom, hfound]
    dsimp only
    rw [← hlength, Nat.add_sub_cancel, piecesFrom_pass]
    congr 2
    omega

/-- An escaped tag has one backslash more than twice as many as it had. -/
theorem escapeFrom_written (h : Inner f.inside) :
    escapeFrom 0 (f.written ++ after) =
      (⟨2 * f.backslashes + 1, f.inside⟩ : Found).written ++ escapeFrom 0 after := by
  have hfound := found?_written h after
  have hlength := f.length_written
  cases hw : f.written with
  | nil => rw [hw, Found.length] at hlength; cases hlength
  | cons c l =>
    rw [hw, List.length_cons] at hlength
    rw [hw, List.cons_append] at hfound
    rw [List.cons_append, escapeFrom, hfound]
    dsimp only
    have hdouble : 2 * f.backslashes + 1 = f.backslashes + 1 + f.backslashes := by omega
    rw [← hlength, Nat.add_sub_cancel, escapeFrom_pass, ← List.cons_append, ← hw]
    simp only [Found.written, hdouble, ← List.replicate_append_replicate, List.append_assoc]

def Piece.tag? : Piece → Option Tag
  | .tag t _ => some t
  | .text _ | .fixed _ => none

/-- The tags among the pieces, which alone can be at fault. -/
def tags (pieces : List Piece) : List Tag :=
  pieces.filterMap Piece.tag?

@[simp] theorem tags_extend (c : Char) (pieces : List Piece) :
    tags (Piece.extend c pieces) = tags pieces := by
  unfold Piece.extend
  split <;> rfl

theorem tags_append (ps qs : List Piece) : tags (ps ++ qs) = tags ps ++ tags qs :=
  List.filterMap_append

theorem tags_pieces (f : Found) (position : Nat) :
    tags (f.pieces position) = if f.isPlain then [] else [.ofInside f.inside] := by
  unfold Found.pieces
  rw [tags_append]
  by_cases h2 : f.backslashes < 2 <;> by_cases hp : f.isPlain <;> simp [h2, hp, tags, Piece.tag?]

theorem piecesFrom_of_none {position : Nat} (h : found? (c :: rest) = none) :
    piecesFrom 0 position (c :: rest) = Piece.extend c (piecesFrom 0 (position + 1) rest) := by
  rw [piecesFrom, h]

theorem escapeFrom_of_none (h : found? (c :: rest) = none) :
    escapeFrom 0 (c :: rest) = c :: escapeFrom 0 rest := by
  rw [escapeFrom, h]

/-- A text without brackets holds no tag. -/
theorem tags_of_open_not_mem (h : '[' ∉ cs) : ∀ position, tags (piecesFrom 0 position cs) = [] := by
  induction cs with
  | nil => intro position; rfl
  | cons c rest ih =>
    intro position
    have hnone : found? (c :: rest) = none := by
      cases hf : found? (c :: rest) with
      | none => rfl
      | some f =>
        obtain ⟨-, after, hcs⟩ := written_of_found? hf
        rw [hcs] at h
        simp [Found.written] at h
    rw [piecesFrom_of_none hnone, tags_extend]
    exact ih (fun hmem => h (List.mem_cons_of_mem c hmem)) _

/-- No closing bracket comes before the first opening one, so what stands before the text cannot
form a tag with it. -/
def Guarded (w : List Char) : Prop :=
  ∀ before after, w = before ++ ']' :: after → '[' ∈ before

theorem guarded_backslashes (n : Nat) (l : List Char) :
    Guarded (List.replicate n '\\' ++ '[' :: l) := by
  induction n with
  | zero =>
    intro before after h
    cases before with
    | nil => simp at h
    | cons b before =>
      obtain ⟨rfl, -⟩ := List.cons.inj h
      exact List.mem_cons_self
  | succ n ih =>
    intro before after h
    rw [List.replicate_succ, List.cons_append] at h
    cases before with
    | nil => simp at h
    | cons b before => exact List.mem_cons_of_mem b (ih before after (List.cons.inj h).2)

theorem guarded_written (f : Found) (after : List Char) : Guarded (f.written ++ after) := by
  have h := guarded_backslashes f.backslashes (f.inside ++ ']' :: after)
  rw [Found.written]
  simpa using h

/-- Escaping moves no closing bracket in front of an opening one. -/
theorem close_of_escapeFrom (hw : Guarded w) : ∀ {before : List Char}, '[' ∉ before →
    escapeFrom 0 cs ++ w = before ++ ']' :: after → ∃ later, cs = before ++ ']' :: later := by
  induction cs with
  | nil =>
    intro before hb h
    exact absurd (hw before after h) hb
  | cons c rest ih =>
    intro before hb h
    cases hf : found? (c :: rest) with
    | some f =>
      obtain ⟨hinner, later, hcs⟩ := written_of_found? hf
      rw [hcs, escapeFrom_written hinner, List.append_assoc] at h
      exact absurd (guarded_written _ _ before after h) hb
    | none =>
      rw [escapeFrom_of_none hf, List.cons_append] at h
      cases before with
      | nil =>
        obtain ⟨rfl, -⟩ := List.cons.inj h
        exact ⟨rest, rfl⟩
      | cons b before =>
        obtain ⟨rfl, hrest⟩ := List.cons.inj h
        obtain ⟨later, rfl⟩ := ih (fun hmem => hb (List.mem_cons_of_mem c hmem)) hrest
        exact ⟨later, rfl⟩

/-- Where no tag was found, escaping makes one only with what follows a text of backslashes. -/
theorem backslashes_of_found? (hw : Guarded w) : ∀ {g : Found}, found? cs = none →
    found? (escapeFrom 0 cs ++ w) = some g → cs = List.replicate cs.length '\\' := by
  induction cs with
  | nil => intro g _ _; rfl
  | cons c rest ih =>
    rintro ⟨backslashes, i⟩ hnone hg
    rw [escapeFrom_of_none hnone, List.cons_append] at hg
    obtain ⟨hinner, after, hcs⟩ := written_of_found? hg
    cases backslashes with
    | zero =>
      -- the tag would have been there before
      simp only [Found.written, List.replicate_zero, List.nil_append, List.cons_append,
        List.append_assoc] at hcs
      obtain ⟨rfl, hrest⟩ := List.cons.inj hcs
      obtain ⟨later, rfl⟩ := close_of_escapeFrom hw hinner.open_not_mem hrest
      have hfound := found?_written (f := ⟨0, i⟩) hinner later
      simp [Found.written, hnone] at hfound
    | succ n =>
      simp only [Found.written, List.replicate_succ, List.cons_append] at hcs
      obtain ⟨rfl, hrest⟩ := List.cons.inj hcs
      have hnone' : found? rest = none := by
        cases hf : found? rest with
        | none => rfl
        | some f =>
          obtain ⟨hinner', later, rfl⟩ := written_of_found? hf
          have hfound := found?_written (f := ⟨f.backslashes + 1, f.inside⟩) hinner' later
          rw [Found.written, List.replicate_succ, List.cons_append, List.cons_append] at hfound
          exact absurd (hnone.symm.trans hfound) (by simp)
      have hg' : found? (escapeFrom 0 rest ++ w) = some ⟨n, i⟩ := by
        rw [hrest]
        exact found?_written (f := ⟨n, i⟩) hinner after
      rw [List.length_cons, List.replicate_succ, ← ih hnone' hg']

theorem escapeFrom_backslashes (n : Nat) :
    escapeFrom 0 (List.replicate n '\\') = List.replicate n '\\' := by
  induction n with
  | zero => rfl
  | succ n ih =>
    have hnone : found? ('\\' :: List.replicate n '\\') = none := by
      cases hf : found? ('\\' :: List.replicate n '\\') with
      | none => rfl
      | some f =>
        obtain ⟨-, after, hcs⟩ := written_of_found? hf
        have hmem : '[' ∈ '\\' :: List.replicate n '\\' := by
          rw [hcs]
          simp [Found.written]
        simp at hmem
    rw [List.replicate_succ, escapeFrom_of_none hnone, ih]

/-- An escaped text holds no tags: those of a text that begins with one are those of what follows,
behind the backslashes at the end of the escaped text. -/
theorem tags_escapeFrom (hw : Guarded w) (cs : List Char) : ∀ position, ∃ n position',
    tags (piecesFrom 0 position (escapeFrom 0 cs ++ w)) =
      tags (piecesFrom 0 position' (List.replicate n '\\' ++ w)) := by
  induction hlen : cs.length using Nat.strongRecOn generalizing cs with
  | ind length ih =>
    intro position
    cases hf : found? cs with
    | some f =>
      obtain ⟨hinner, after, rfl⟩ := written_of_found? hf
      have hshort : after.length < length := by
        rw [← hlen, List.length_append, f.length_written, Found.length]
        omega
      have hplain : (⟨2 * f.backslashes + 1, f.inside⟩ : Found).isPlain = true := by
        rw [Found.isPlain, decide_eq_true_eq]
        show (2 * f.backslashes + 1) % 2 = 1
        omega
      obtain ⟨n, position', hn⟩ := ih after.length hshort after rfl _
      refine ⟨n, position', ?_⟩
      rw [escapeFrom_written hinner, List.append_assoc,
        piecesFrom_written (f := ⟨2 * f.backslashes + 1, f.inside⟩) hinner, tags_append,
        tags_pieces, if_pos hplain, List.nil_append]
      exact hn
    | none =>
      cases hg : found? (escapeFrom 0 cs ++ w) with
      | some g =>
        have hback := backslashes_of_found? hw hf hg
        refine ⟨cs.length, position, ?_⟩
        rw [hback, escapeFrom_backslashes, List.length_replicate]
      | none =>
        cases cs with
        | nil => exact ⟨0, position, rfl⟩
        | cons c rest =>
          rw [escapeFrom_of_none hf, List.cons_append] at hg ⊢
          rw [piecesFrom_of_none hg, tags_extend]
          rw [List.length_cons] at hlen
          exact ih rest.length (by omega) rest rfl _

theorem toList_escape (s : String) :
    ∃ n, (escape s).toList = escapeFrom 0 s.toList ++ List.replicate n '\\' := by
  unfold escape
  dsimp only
  split
  · exact ⟨1, by rw [String.toList_append, String.toList_ofList]; rfl⟩
  · exact ⟨0, by rw [String.toList_ofList, List.replicate_zero, List.append_nil]⟩

/-- Around an escaped text only the two given tags count, and the second is plain text where
backslashes come before it. -/
theorem tags_around_escape {style closing : List Char} (hstyle : Inner style)
    (hclosing : Inner closing) (s : String) :
    tags (piecesFrom 0 0 ('[' :: style ++ ']' :: ((escape s).toList ++ '[' :: closing ++ [']']))) =
        [.ofInside style] ∨
      tags (piecesFrom 0 0 ('[' :: style ++ ']' :: ((escape s).toList ++ '[' :: closing ++ [']']))) =
        [.ofInside style, .ofInside closing] := by
  obtain ⟨n, hn⟩ := toList_escape s
  have htext : '[' :: style ++ ']' :: ((escape s).toList ++ '[' :: closing ++ [']']) =
      (⟨0, style⟩ : Found).written ++
        (escapeFrom 0 s.toList ++ (⟨n, closing⟩ : Found).written) := by
    rw [hn]
    simp [Found.written]
  have hguarded : Guarded (⟨n, closing⟩ : Found).written := by
    have h := guarded_written ⟨n, closing⟩ []
    rwa [List.append_nil] at h
  obtain ⟨m, position, htags⟩ :=
    tags_escapeFrom hguarded s.toList (0 + (⟨0, style⟩ : Found).length)
  have hclose : List.replicate m '\\' ++ (⟨n, closing⟩ : Found).written =
      (⟨m + n, closing⟩ : Found).written ++ [] := by
    rw [List.append_nil, Found.written, Found.written, ← List.replicate_append_replicate]
    simp only [List.append_assoc]
  rw [htext, piecesFrom_written (f := ⟨0, style⟩) hstyle, tags_append, tags_pieces, htags, hclose,
    piecesFrom_written (f := ⟨m + n, closing⟩) hclosing, tags_append, tags_pieces]
  have hopen : ¬ (⟨0, style⟩ : Found).isPlain = true := by simp [Found.isPlain]
  rw [if_neg hopen]
  split
  · exact .inl rfl
  · exact .inr rfl

/-- A character that belongs to no tag leaves the tags behind it as they are. -/
theorem tags_plain_append {l : List Char} (h : l.all fun c => c != '[' && c != '\\') : ∀ position,
    tags (piecesFrom 0 position (l ++ rest)) = tags (piecesFrom 0 (position + l.length) rest) := by
  induction l with
  | nil => intro position; rfl
  | cons c l ih =>
    intro position
    rw [List.all_cons, Bool.and_eq_true_iff, Bool.and_eq_true_iff, bne_iff_ne, bne_iff_ne] at h
    obtain ⟨⟨hopen, hback⟩, hl⟩ := h
    have hnone : found? (c :: (l ++ rest)) = none := by
      rw [found?, List.takeWhile_cons_of_neg (by simpa using hback), List.length_nil,
        List.drop_zero]
      split
      · rename_i heq
        exact absurd (List.cons.inj heq).1 hopen
      · rfl
    rw [List.cons_append, piecesFrom_of_none hnone, tags_extend,
      ih hl, List.length_cons]
    congr 2
    omega

/-- An escaped text at the end holds no tag. -/
theorem tags_escape (s : String) (position : Nat) :
    tags (piecesFrom 0 position (escape s).toList) = [] := by
  obtain ⟨n, hn⟩ := toList_escape s
  have hguarded : Guarded (List.replicate n '\\') := by
    intro before after h
    have hmem : ']' ∈ List.replicate n '\\' := by
      rw [h]
      simp
    simp at hmem
  obtain ⟨m, position', htags⟩ := tags_escapeFrom hguarded s.toList position
  rw [hn, htags, List.replicate_append_replicate]
  exact tags_of_open_not_mem (by simp) position'

/-- Whether no tag closes what is not open. -/
def balanced (opened : List String) : List Tag → Bool
  | [] => true
  | t :: rest =>
    match t.name.toList with
    | '/' :: name =>
      let closed := style (.ofList name)
      if closed = "" then
        match opened with
        | _ :: others => balanced others rest
        | [] => false
      else opened.contains closed && balanced (opened.erase closed) rest
    | _ => balanced (style t.name :: opened) rest

/-- A tag that closes nothing opens a style. -/
theorem shownPieces_opening {t : Tag} (h : ∀ name, t.name.toList ≠ '/' :: name) (position : Nat)
    (pieces : List Piece) : shownPieces opened (.tag t position :: pieces) =
      shownPieces (style t.name :: opened) pieces := by
  conv => lhs; unfold shownPieces
  split
  · exact absurd ‹_› (h _)
  · rfl

theorem balanced_opening {t : Tag} (h : ∀ name, t.name.toList ≠ '/' :: name) (ts : List Tag) :
    balanced opened (t :: ts) = balanced (style t.name :: opened) ts := by
  conv => lhs; unfold balanced
  split
  · exact absurd ‹_› (h _)
  · rfl

theorem isOk_shownPieces (pieces : List Piece) : ∀ opened,
    (shownPieces opened pieces).isOk = balanced opened (tags pieces) := by
  induction pieces with
  | nil => intro opened; rfl
  | cons piece rest ih =>
    intro opened
    cases piece with
    | text cs =>
      show _ = balanced opened (tags rest)
      rw [← ih opened, shownPieces]
      cases shownPieces opened rest <;> rfl
    | fixed cs =>
      show _ = balanced opened (tags rest)
      rw [← ih opened, shownPieces]
      cases shownPieces opened rest <;> rfl
    | tag t position =>
      show _ = balanced opened (t :: tags rest)
      by_cases hslash : ∃ name, t.name.toList = '/' :: name
      · obtain ⟨name, hname⟩ := hslash
        unfold shownPieces balanced
        simp only [hname]
        by_cases hall : style (.ofList name) = ""
        · rw [if_pos hall, if_pos hall]
          cases opened with
          | nil => rfl
          | cons innermost others => exact ih others
        · rw [if_neg hall, if_neg hall]
          by_cases hopen : opened.contains (style (.ofList name))
          · rw [if_pos hopen, hopen, Bool.true_and]
            exact ih _
          · rw [if_neg hopen]
            rw [Bool.not_eq_true] at hopen
            rw [hopen, Bool.false_and]
            rfl
      · have hname : ∀ name, t.name.toList ≠ '/' :: name := fun name h => hslash ⟨name, h⟩
        rw [shownPieces_opening hname, balanced_opening hname]
        exact ih _

theorem isOk_shown (s : String) :
    (shown s).isOk = balanced [] (tags (piecesFrom 0 0 s.toList)) := by
  rw [← isOk_shownPieces, shown]
  cases shownPieces [] (piecesFrom 0 0 s.toList) <;> rfl

end Groundwork.Console.Markup
