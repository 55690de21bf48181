import Groundwork.Proofs.Template.Scan
import Groundwork.Proofs.Text.Lines
import Groundwork.Proofs.Text.Occurrence

/-!
# Templates whose choices are settled

Where the values that a template chooses by are known, all that is left of it is text of its own and
the places of other values. Settling finds this shape once, for all those other values. What can be
seen of a shape holds of every text that comes of it: how it is cut into lines, and which words can
only occur inside a value.
-/

namespace Groundwork.Template

namespace Expr

/-- The names that an expression mentions. -/
def names : Expr → List String
  | literal _ => []
  | name n => [n]
  | member object _ => object.names
  | equal l r | differ l r | within l r | both l r | either l r | joined l r => l.names ++ r.names
  | negate operand | filter _ operand => operand.names

/-- An expression depends on the names that it mentions, and on nothing else. -/
theorem eval_congr {b b' : Bindings} {e : Expr} (h : ∀ n ∈ e.names, b.find? n = b'.find? n) :
    e.eval b = e.eval b' := by
  induction e with
  | literal v => rfl
  | name n => rw [eval, eval, h n List.mem_cons_self]
  | member object field ih => rw [eval, eval, ih h]
  | negate operand ih | filter f operand ih => rw [eval, eval, ih h]
  | equal l r ihl ihr | differ l r ihl ihr | within l r ihl ihr | both l r ihl ihr
  | either l r ihl ihr | joined l r ihl ihr =>
    rw [eval, eval, ihl fun n hn => h n (List.mem_append_left _ hn),
      ihr fun n hn => h n (List.mem_append_right _ hn)]

/-- What an expression comes to if all its names are known. -/
def known? (known : Bindings) (e : Expr) : Option Operand :=
  if e.names.all fun n => (known.find? n).isSome then (e.eval known).toOption else none

end Expr

/-- Two bindings that give the expressions of a template the same values. -/
def AgreeOn : Template → Bindings → Bindings → Prop
  | done, _, _ => True
  | text _ next, b, b' => AgreeOn next b b'
  | value e next, b, b' => e.eval b = e.eval b' ∧ AgreeOn next b b'
  | branch test yes no next, b, b' =>
    test.eval b = test.eval b' ∧ AgreeOn yes b b' ∧ AgreeOn no b b' ∧ AgreeOn next b b'
  | loop name source body otherwise next, b, b' =>
    source.eval b = source.eval b' ∧ (∀ v, AgreeOn body ((name, v) :: b) ((name, v) :: b')) ∧
      AgreeOn otherwise b b' ∧ AgreeOn next b b'

/-- What is printed depends on the values of the expressions only. -/
theorem print_congr {t : Template} {b b' : Bindings} (h : AgreeOn t b b') :
    t.print b = t.print b' := by
  induction t generalizing b b' with
  | done => rfl
  | text s next ih => rw [print, print, ih h]
  | value e next ih => rw [print, print, h.1, ih h.2]
  | branch test yes no next ihyes ihno ih =>
    obtain ⟨htest, hyes, hno, hnext⟩ := h
    rw [print, print, htest, ihyes hyes, ihno hno, ih hnext]
  | loop name source body otherwise next ihbody ihotherwise ih =>
    obtain ⟨hsource, hbody, hotherwise, hnext⟩ := h
    have hrounds : (fun v => print ((name, v) :: b) body) = fun v => print ((name, v) :: b') body :=
      funext fun v => ihbody (hbody v)
    rw [print, print, hsource, ihotherwise hotherwise, ih hnext]
    simp only [hrounds]

namespace Shape

/-- The text of a shape. -/
def chars (b : Bindings) (shape : Shape) : List Char :=
  (inks b shape).map Ink.char

/-- The names whose values a shape has. -/
def names : Shape → List String
  | [] => []
  | .own _ :: rest => names rest
  | .named n :: rest => n :: names rest

/-- Own text in front of a shape. Pieces of own text are not left side by side. -/
def write (cs : List Char) : Shape → Shape
  | .own cs' :: rest => .own (cs ++ cs') :: rest
  | shape => if cs = [] then shape else .own cs :: shape

/-- The place of an expression in front of a shape. -/
def put? (known : Bindings) (e : Expr) (after : Shape) : Option Shape :=
  match e.known? known, e with
  | some o, _ => some (write o.written.toList after)
  | none, .name n => some (.named n :: after)
  | none, _ => none

/-- The shape in front of the first of some lines. -/
def onFirst (f : Shape → Shape) : List Shape → List Shape
  | [] => [f []]
  | line :: rest => f line :: rest

/-- The lines of a shape, as far as its own line ends go. -/
def lines : Shape → List Shape
  | [] => [[]]
  | .own cs :: rest =>
    cs.foldr (fun c ls => if c = '\n' then [] :: ls else onFirst (write [c]) ls) (lines rest)
  | .named n :: rest => onFirst (.named n :: ·) (lines rest)

end Shape

/-- The shape that a template gives in front of another one. Repetitions are not settled. -/
def settle (known : Bindings) {t : Template} : Spelling t → Shape → Option Shape
  | .done, after => some after
  | .text cs rest, after => (settle known rest after).map (Shape.write cs)
  | .value e rest, after => (settle known rest after).bind (Shape.put? known e)
  | .branch test yes no rest, after =>
    (settle known rest after).bind fun later =>
      (test.known? known).bind fun o =>
        if o.holds then settle known yes later else settle known no later
  | .loop .., _ => none

/-- The bindings have the known values. -/
def Knows (known b : Bindings) : Prop :=
  ∀ n v, known.find? n = some v → b.find? n = some v

variable {known b : Bindings} {e : Expr} {o : Operand} {shape after : Shape} {cs w : List Char}

theorem Expr.eval_of_known? (hk : Knows known b) (h : e.known? known = some o) :
    e.eval b = .ok o := by
  unfold known? at h
  split at h
  · rename_i hall
    have hsame : e.eval b = e.eval known := by
      refine eval_congr fun n hn => ?_
      obtain ⟨v, hv⟩ := Option.isSome_iff_exists.1 (List.all_eq_true.1 hall n hn)
      rw [hv, hk n v hv]
    rw [hsame]
    cases he : e.eval known with
    | error fault =>
      rw [he] at h
      cases h
    | ok o' =>
      rw [he] at h
      cases h
      rfl
  · cases h

namespace Shape

@[simp] theorem chars_nil (b : Bindings) : chars b [] = [] := rfl

@[simp] theorem chars_own (b : Bindings) (cs : List Char) (rest : Shape) :
    chars b (.own cs :: rest) = cs ++ chars b rest := by
  simp [chars, inks, Piece.inks, Ink.ofChars, Function.comp_def]

@[simp] theorem chars_named (b : Bindings) (n : String) (rest : Shape) :
    chars b (.named n :: rest) = (b.written n).toList ++ chars b rest := by
  simp [chars, inks, Piece.inks, Ink.ofText, Ink.ofChars, Function.comp_def]

@[simp] theorem chars_write (b : Bindings) (cs : List Char) (shape : Shape) :
    chars b (write cs shape) = cs ++ chars b shape := by
  unfold write
  split
  · simp
  · split
    · rename_i hcs
      rw [hcs]
      rfl
    · simp

theorem chars_append (b : Bindings) (shape shape' : Shape) :
    chars b (shape ++ shape') = chars b shape ++ chars b shape' := by
  induction shape with
  | nil => rfl
  | cons p rest ih =>
    cases p with
    | own cs => rw [List.cons_append, chars_own, chars_own, ih, List.append_assoc]
    | named n => rw [List.cons_append, chars_named, chars_named, ih, List.append_assoc]

theorem chars_cons (b : Bindings) (p : Piece) (rest : Shape) :
    chars b (p :: rest) = chars b [p] ++ chars b rest :=
  chars_append b [p] rest

theorem chars_put? {later : Shape} (hk : Knows known b) (hput : put? known e later = some shape)
    (ho : e.eval b = .ok o) : chars b shape = o.written.toList ++ chars b later := by
  unfold put? at hput
  split at hput
  · rename_i o' hknown
    cases hput
    rw [Expr.eval_of_known? hk hknown] at ho
    cases ho
    exact chars_write b _ later
  · cases hput
    rw [chars_named, written_of_eval_name ho]
  · cases hput

end Shape

/-- What a settled template prints is the text of its shape. -/
theorem settle_chars {t : Template} (hk : Knows known b) (sp : Spelling t) {inks : List Ink}
    (hs : settle known sp after = some shape) (hprint : t.print b = .ok inks) :
    shape.chars b = inks.map Ink.char ++ after.chars b := by
  induction sp generalizing inks shape after with
  | done =>
    cases hs
    cases hprint
    rfl
  | text cs rest ih =>
    obtain ⟨later, hlater, rfl⟩ := Option.map_eq_some_iff.1 hs
    obtain ⟨inks', hrest, rfl⟩ := print_text_ok hprint
    rw [Shape.chars_write, ih hlater hrest]
    simp [Ink.ofText, Ink.ofChars, Function.comp_def]
  | value e rest ih =>
    obtain ⟨later, hlater, hput⟩ := Option.bind_eq_some_iff.1 hs
    obtain ⟨o, inks', ho, hrest, rfl⟩ := print_value_ok hprint
    rw [Shape.chars_put? hk hput ho, ih hlater hrest]
    simp [Ink.ofText, Ink.ofChars, Function.comp_def]
  | branch test yes no rest ihyes ihno ihrest =>
    obtain ⟨later, hlater, hs⟩ := Option.bind_eq_some_iff.1 hs
    obtain ⟨o, hknown, hs⟩ := Option.bind_eq_some_iff.1 hs
    obtain ⟨o', ho', hprint⟩ := bind_ok hprint
    obtain ⟨chosen, hchosen, hprint⟩ := bind_ok hprint
    obtain ⟨inks', hrest, hprint⟩ := bind_ok hprint
    cases hprint
    rw [Expr.eval_of_known? hk hknown] at ho'
    cases ho'
    rw [List.map_append, List.append_assoc, ← ihrest hlater hrest]
    by_cases hholds : o.holds
    · rw [if_pos hholds] at hs hchosen
      exact ihyes hs hchosen
    · rw [if_neg hholds] at hs hchosen
      exact ihno hs hchosen
  | loop => cases hs

/-- The texts of a template without values, whichever of its branches are taken. -/
def texts? {t : Template} : Spelling t → Option (List (List Char))
  | .done => some []
  | .text cs rest => (texts? rest).map (cs :: ·)
  | .branch _ yes no rest => do return (← texts? yes) ++ (← texts? no) ++ (← texts? rest)
  | .value .. | .loop .. => none

/-- A template without values prints some of its texts. -/
theorem parts_of_texts? {t : Template} (sp : Spelling t) {texts : List (List Char)}
    {inks : List Ink} (hts : texts? sp = some texts) (hprint : t.print b = .ok inks) :
    ∃ parts, inks.map Ink.char = parts.flatten ∧ parts ⊆ texts := by
  induction sp generalizing inks texts with
  | done =>
    cases hprint
    exact ⟨[], rfl, List.nil_subset _⟩
  | text cs rest ih =>
    obtain ⟨later, hlater, rfl⟩ := Option.map_eq_some_iff.1 hts
    obtain ⟨inks', hrest, rfl⟩ := print_text_ok hprint
    obtain ⟨parts, hparts, hsub⟩ := ih hlater hrest
    refine ⟨cs :: parts, ?_, List.cons_subset_cons cs hsub⟩
    rw [List.map_append, hparts]
    simp [Ink.ofText, Ink.ofChars, Function.comp_def]
  | branch test yes no rest ihyes ihno ihrest =>
    obtain ⟨first, hfirst, hts⟩ := Option.bind_eq_some_iff.1 hts
    obtain ⟨second, hsecond, hts⟩ := Option.bind_eq_some_iff.1 hts
    obtain ⟨later, hlater, hts⟩ := Option.bind_eq_some_iff.1 hts
    cases hts
    obtain ⟨chosen, inks', hchosen, hrest, rfl⟩ := print_branch_ok hprint
    obtain ⟨parts', hparts', hsub'⟩ := ihrest hlater hrest
    have hchosen' : ∃ parts, chosen.map Ink.char = parts.flatten ∧ parts ⊆ first ++ second := by
      rcases hchosen with h | h
      · obtain ⟨parts, hparts, hsub⟩ := ihyes hfirst h
        exact ⟨parts, hparts, List.Subset.trans hsub (List.subset_append_left _ _)⟩
      · obtain ⟨parts, hparts, hsub⟩ := ihno hsecond h
        exact ⟨parts, hparts, List.Subset.trans hsub (List.subset_append_right _ _)⟩
    obtain ⟨parts, hparts, hsub⟩ := hchosen'
    refine ⟨parts ++ parts', ?_, ?_⟩
    · rw [List.map_append, hparts, hparts', List.flatten_append]
    · intro part hpart
      rcases List.mem_append.1 hpart with h | h
      · exact List.mem_append_left _ (hsub h)
      · exact List.mem_append_right _ (hsub' h)
  | value | loop => cases hts

namespace Shape

open Text

theorem unlines_onFirst (f : Shape → Shape) (front : List Char)
    (hf : ∀ line, chars b (f line) = front ++ chars b line) (ls : List Shape) :
    ls ≠ [] → unlines ((onFirst f ls).map (chars b)) = front ++ unlines (ls.map (chars b)) := by
  intro hne
  cases ls with
  | nil => exact absurd rfl hne
  | cons line rest => simp [onFirst, unlines, hf]

theorem lines_ne_nil (shape : Shape) : lines shape ≠ [] := by
  have honFirst (f : Shape → Shape) (ls : List Shape) : onFirst f ls ≠ [] := by
    cases ls <;> exact List.cons_ne_nil _ _
  cases shape with
  | nil => exact List.cons_ne_nil _ _
  | cons piece rest =>
    cases piece with
    | named n => exact honFirst _ _
    | own cs =>
      rw [lines]
      induction cs with
      | nil => exact lines_ne_nil rest
      | cons c cs ih =>
        rw [List.foldr_cons]
        split
        · exact List.cons_ne_nil _ _
        · exact honFirst _ _

/-- The text of a shape is made up of its lines. -/
theorem unlines_lines (b : Bindings) (shape : Shape) :
    unlines (shape.lines.map (chars b)) = chars b shape ++ ['\n'] := by
  induction shape with
  | nil => rfl
  | cons piece rest ih =>
    cases piece with
    | named n =>
      rw [lines, unlines_onFirst _ _ (fun line => chars_named b n line) _ (lines_ne_nil rest), ih]
      simp
    | own cs =>
      rw [chars_own]
      have hfold : ∀ cs, lines (.own cs :: rest)
          = cs.foldr (fun c ls => if c = '\n' then [] :: ls else onFirst (write [c]) ls)
            (lines rest) := fun _ => rfl
      induction cs with
      | nil => exact ih
      | cons c cs ihcs =>
        rw [hfold, List.foldr_cons, ← hfold]
        by_cases hc : c = '\n'
        · subst hc
          rw [if_pos rfl, List.map_cons, unlines_cons, ihcs]
          rfl
        · rw [if_neg hc, unlines_onFirst _ [c] (fun line => chars_write b [c] line) _
            (lines_ne_nil _), ihcs]
          rfl

/-- A shape whose last line is empty is made up of lines that are all ended. -/
theorem chars_of_lines {ls : List Shape} (h : shape.lines = ls ++ [[]]) :
    chars b shape = unlines (ls.map (chars b)) := by
  have hall := unlines_lines b shape
  rw [h, List.map_append, unlines_append] at hall
  exact (List.append_cancel_right hall).symm

/-- No occurrence of a word begins in a piece and reaches beyond it. -/
def seam (w : List Char) : Piece → Shape → Bool
  | _, [] => true
  | .own cs, _ :: _ => decide (Blunt w cs)
  | .named _, .own cs :: _ => decide (Clear w cs)
  | .named _, .named _ :: _ => false

/-- A word can only occur inside the values of a shape. -/
def spares (w : List Char) : Shape → Bool
  | [] => true
  | .own cs :: rest => (cutFirst? w cs).isNone && seam w (.own cs) rest && spares w rest
  | .named n :: rest => seam w (.named n) rest && spares w rest

theorem uncut_nil (w l : List Char) : Uncut w l [] :=
  fun _ _ _ _ hb _ hr => hb (List.prefix_nil.1 hr)

theorem uncut_own {rest : Shape} (h : seam w (.own cs) rest) (b : Bindings) :
    Uncut w cs (chars b rest) := by
  cases rest with
  | nil => exact uncut_nil w cs
  | cons piece rest => exact Blunt.uncut (of_decide_eq_true h) _

theorem uncut_named {n : String} {rest : Shape} (h : seam w (.named n) rest) (b : Bindings) :
    Uncut w (b.written n).toList (chars b rest) := by
  cases rest with
  | nil => exact uncut_nil w _
  | cons piece rest =>
    cases piece with
    | named m => cases h
    | own cs =>
      rw [chars_own]
      exact Clear.uncut (of_decide_eq_true h) (List.prefix_append _ _) _

/-- A word that a shape spares occurs in its text where it occurs in a value. -/
theorem infix_chars (hw : w ≠ []) (h : spares w shape) :
    w <:+: chars b shape ↔ ∃ n ∈ names shape, w <:+: (b.written n).toList := by
  induction shape with
  | nil => simp [names, hw]
  | cons piece rest ih =>
    cases piece with
    | own cs =>
      rw [spares, Bool.and_eq_true, Bool.and_eq_true] at h
      obtain ⟨⟨hnone, hseam⟩, hrest⟩ := h
      have hnot : ¬ w <:+: cs := by
        rw [← cutFirst?_isSome, Option.not_isSome_iff_eq_none]
        exact Option.isNone_iff_eq_none.1 hnone
      rw [chars_own, infix_append_iff (uncut_own hseam b), ih hrest]
      simp [names, hnot]
    | named m =>
      rw [spares, Bool.and_eq_true] at h
      obtain ⟨hseam, hrest⟩ := h
      rw [chars_named, infix_append_iff (uncut_named hseam b), ih hrest]
      simp [names]

/-- A word that no value has is nowhere in a shape that spares it. -/
theorem not_infix_chars (hw : w ≠ []) (h : spares w shape)
    (hvalues : ∀ n ∈ names shape, ¬ w <:+: (b.written n).toList) : ¬ w <:+: chars b shape := by
  rw [infix_chars hw h]
  rintro ⟨n, hn, hin⟩
  exact hvalues n hn hin

theorem not_mem_chars {c : Char} (h : spares [c] shape)
    (hvalues : ∀ n ∈ names shape, c ∉ (b.written n).toList) : c ∉ chars b shape := by
  rw [← List.singleton_infix_iff]
  exact not_infix_chars (List.cons_ne_nil c []) h fun n hn hin =>
    hvalues n hn ((List.singleton_infix_iff c _).1 hin)

/-- The text of a shape that is a line. -/
def line (b : Bindings) (shape : Shape) : String :=
  .ofList (chars b shape)

@[simp] theorem line_nil (b : Bindings) : line b [] = "" := rfl

@[simp] theorem line_own (b : Bindings) (cs : List Char) (rest : Shape) :
    line b (.own cs :: rest) = .ofList cs ++ line b rest := by
  rw [line, chars_own, String.ofList_append]
  rfl

@[simp] theorem line_named (b : Bindings) (n : String) (rest : Shape) :
    line b (.named n :: rest) = b.written n ++ line b rest := by
  rw [line, chars_named, String.ofList_append, String.ofList_toList]
  rfl

end Shape

end Groundwork.Template
