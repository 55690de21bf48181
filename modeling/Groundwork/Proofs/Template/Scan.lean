import Groundwork.Proofs.Template.Print

/-!
# The marked lines of a template

Lines that begin with one of some words of the template's own are marked. A scan finds, from the
template alone, how its marked lines can come out: it walks through the template with all the ways
that its choices leave open, and keeps for each the marked lines so far and what the open line has
begun with. Repetitions are scanned once, and only those that leave everything as it was.
-/

namespace Groundwork.Template

/-- A template with its texts spelt out. The characters of a literal are found by unification, which
is much faster than to compute them, so that even long templates can be scanned in the kernel. -/
inductive Spelling : Template → Type where
  | done : Spelling .done
  | text (cs : List Char) {next : Template} (rest : Spelling next) :
      Spelling (.text (.ofList cs) next)
  | value (e : Expr) {next : Template} (rest : Spelling next) : Spelling (.value e next)
  | branch (test : Expr) {yes no next : Template} (chosen : Spelling yes) (other : Spelling no)
      (rest : Spelling next) : Spelling (.branch test yes no next)
  | loop (name : String) (source : Expr) {body otherwise next : Template} (round : Spelling body)
      (instead : Spelling otherwise) (rest : Spelling next) :
      Spelling (.loop name source body otherwise next)

/-- A part of a line: text of the template's own, or the place of a named value. -/
inductive Piece where
  | own (cs : List Char)
  | named (name : String)
  deriving Repr, DecidableEq

/-- A line of a template, before there are values. -/
abbrev Shape := List Piece

namespace Piece

def inks (b : Bindings) : Piece → List Ink
  | own cs => Ink.ofChars true cs
  | named name => Ink.ofText false (b.written name)

def mentions (name : String) : Piece → Bool
  | own _ => false
  | named n => n == name

theorem inks_cons {p : Piece} {name : String} (h : p.mentions name = false) (v : Value)
    (b : Bindings) : p.inks ((name, v) :: b) = p.inks b := by
  cases p with
  | own cs => rfl
  | named n =>
    have hne : (n == name) = false := h
    have hfind : Bindings.find? ((name, v) :: b) n = b.find? n := by
      show List.lookup n ((name, v) :: b) = List.lookup n b
      rw [List.lookup_cons, hne]
    rw [inks, inks, Bindings.written, Bindings.written, hfind]

end Piece

namespace Shape

def inks (b : Bindings) (shape : Shape) : List Ink :=
  shape.flatMap (Piece.inks b)

def mentions (name : String) (shape : Shape) : Bool :=
  shape.any (Piece.mentions name)

theorem inks_append (b : Bindings) (shape shape' : Shape) :
    inks b (shape ++ shape') = inks b shape ++ inks b shape' :=
  List.flatMap_append

theorem inks_cons {shape : Shape} {name : String} (h : mentions name shape = false) (v : Value)
    (b : Bindings) : inks ((name, v) :: b) shape = inks b shape := by
  induction shape with
  | nil => rfl
  | cons p rest ih =>
    rw [mentions, List.any_cons, Bool.or_eq_false_iff] at h
    show p.inks _ ++ inks _ rest = p.inks _ ++ inks _ rest
    rw [Piece.inks_cons h.1, ih h.2]

end Shape

/-- The line begins with one of the words, in the template's own ink. -/
def begins (words : List String) (line : List Ink) : Bool :=
  words.any fun w => (Ink.ofText true w).isPrefixOf line

/-- The line reads as if it began with one of the words, whatever brought them. -/
def reads (words : List String) (line : List Ink) : Bool :=
  words.any fun w => w.toList.isPrefixOf (line.map Ink.char)

/-- What the open line has begun with. -/
inductive Opening where
  | blank
  | unmarked
  | marked (shape : Shape)
  deriving Repr, DecidableEq

/-- A way in which a template can have come out so far. -/
structure Draft where
  lines : List Shape
  last : Opening
  deriving Repr, DecidableEq

section

variable (words : List String)

namespace Opening

/-- Own text without a line end. Text that may still become one of the words cannot be judged. -/
def write (cs : List Char) : Opening → Option Opening
  | blank =>
    if cs = [] then some blank
    else if words.any fun w => w.toList.isPrefixOf cs then some (marked [.own cs])
    else if words.any fun w => cs.isPrefixOf w.toList then none
    else some unmarked
  | unmarked => some unmarked
  | marked shape => some (marked (shape ++ [.own cs]))

/-- A value. At the start of a line it cannot be judged. -/
def fill (e : Expr) : Opening → Option Opening
  | unmarked => some unmarked
  | marked shape =>
    match e with
    | .name name => some (marked (shape ++ [.named name]))
    | _ => none
  | blank => none

def mentions (name : String) : Opening → Bool
  | blank | unmarked => false
  | marked shape => Shape.mentions name shape

/-- What an opening says about the open line. -/
def Shows (b : Bindings) : Opening → List Ink → Prop
  | blank, line => line = []
  | unmarked, line => ∀ more, reads words (line ++ more) = false
  | marked shape, line => line = Shape.inks b shape ∧ begins words line

end Opening

namespace Draft

def endLine : Draft → Draft
  | ⟨lines, .marked shape⟩ => ⟨lines ++ [shape], .blank⟩
  | ⟨lines, _⟩ => ⟨lines, .blank⟩

/-- Own text, that may end the line but not go on after that. -/
def write (cs : List Char) (d : Draft) : Option Draft := do
  let last ← d.last.write words (cs.takeWhile (· ≠ '\n'))
  match cs.dropWhile (· ≠ '\n') with
  | [] => some ⟨d.lines, last⟩
  | ['\n'] => some (endLine ⟨d.lines, last⟩)
  | _ => none

def fill (e : Expr) (d : Draft) : Option Draft :=
  (d.last.fill e).map (⟨d.lines, ·⟩)

def mentions (name : String) (d : Draft) : Bool :=
  d.lines.any (Shape.mentions name) || d.last.mentions name

/-- What a draft says about a page. -/
structure Shows (b : Bindings) (d : Draft) (p : Page) : Prop where
  lines : p.lines.filter (begins words) = d.lines.map (Shape.inks b)
  own : ∀ line ∈ p.lines, reads words line → begins words line
  last : d.last.Shows words b p.last

end Draft

/-- Each draft goes on in its way; equal ones are kept once. -/
def advance (f : Draft → Option Draft) (drafts : List Draft) : Option (List Draft) :=
  (drafts.mapM f).map List.eraseDups

/-- The ways in which a template can come out that goes on from one of the drafts. -/
def scan {t : Template} : Spelling t → List Draft → Option (List Draft)
  | .done, drafts => some drafts
  | .text cs rest, drafts => do scan rest (← advance (Draft.write words cs) drafts)
  | .value e rest, drafts => do scan rest (← advance (Draft.fill e) drafts)
  | .branch _ yes no rest, drafts => do
    let chosen ← scan yes drafts
    let other ← scan no drafts
    scan rest (chosen ++ other).eraseDups
  | .loop name _ round otherwise rest, drafts => do
    let after ← scan round drafts
    let instead ← scan otherwise drafts
    if drafts.any (Draft.mentions name) || !after.all drafts.contains then none
    else scan rest (drafts ++ instead).eraseDups

end

variable {words : List String} {b : Bindings} {inks : List Ink} {d d' : Draft} {p : Page}
  {name : String} {cs : List Char} {e : Expr} {t : Template} {drafts after : List Draft}

theorem begins_append_of_begins {line : List Ink} (h : begins words line) (more : List Ink) :
    begins words (line ++ more) := by
  obtain ⟨w, hw, hstart⟩ := List.any_eq_true.1 h
  refine List.any_eq_true.2 ⟨w, hw, ?_⟩
  rw [List.isPrefixOf_iff_prefix] at hstart ⊢
  exact hstart.trans (List.prefix_append line more)

theorem ofChars_prefix_iff {cs cs' : List Char} :
    Ink.ofChars true cs <+: Ink.ofChars true cs' ↔ cs <+: cs' := by
  constructor
  · intro h
    have hchars := h.map Ink.char
    simpa [Ink.ofChars, Function.comp_def] using hchars
  · intro h
    exact h.map _

theorem reads_of_begins {line : List Ink} (h : begins words line) : reads words line := by
  obtain ⟨w, hw, hstart⟩ := List.any_eq_true.1 h
  refine List.any_eq_true.2 ⟨w, hw, ?_⟩
  rw [List.isPrefixOf_iff_prefix] at hstart ⊢
  have hchars := hstart.map Ink.char
  simpa [Ink.ofText, Ink.ofChars, Function.comp_def] using hchars

theorem begins_of_reads_false {line : List Ink} (h : reads words line = false) :
    begins words line = false := by
  cases hb : begins words line with
  | false => rfl
  | true =>
    rw [reads_of_begins hb] at h
    cases h

/-- Text that neither begins with a word nor is the beginning of one marks no line. -/
theorem unmarked_of_text (hno : ¬ (words.any fun w => w.toList.isPrefixOf cs) = true)
    (hnone : ¬ (words.any fun w => cs.isPrefixOf w.toList) = true) (more : List Ink) :
    reads words (Ink.ofChars true cs ++ more) = false := by
  have hchars : (Ink.ofChars true cs ++ more).map Ink.char = cs ++ more.map Ink.char := by
    simp [Ink.ofChars, Function.comp_def]
  rw [reads, List.any_eq_false]
  intro w hw hstart
  rw [List.isPrefixOf_iff_prefix, hchars] at hstart
  rcases List.prefix_or_prefix_of_prefix hstart (List.prefix_append _ _) with h | h
  · apply hno
    rw [List.any_eq_true]
    exact ⟨w, hw, List.isPrefixOf_iff_prefix.2 h⟩
  · apply hnone
    rw [List.any_eq_true]
    exact ⟨w, hw, List.isPrefixOf_iff_prefix.2 h⟩

theorem Opening.shows_write {o o' : Opening} {line : List Ink} (h : o.Shows words b line)
    (hw : o.write words cs = some o') : o'.Shows words b (line ++ Ink.ofChars true cs) := by
  cases o with
  | blank =>
    have hline : line = [] := h
    subst hline
    rw [write] at hw
    split at hw
    · rename_i hs
      cases hw
      rw [hs]
      rfl
    · split at hw
      · rename_i hbegins
        cases hw
        refine ⟨by simp [Shape.inks, Piece.inks], ?_⟩
        obtain ⟨w, hmem, hstart⟩ := List.any_eq_true.1 hbegins
        refine List.any_eq_true.2 ⟨w, hmem, ?_⟩
        rw [List.isPrefixOf_iff_prefix] at hstart ⊢
        exact ofChars_prefix_iff.2 hstart
      · rename_i hno
        split at hw
        · cases hw
        · rename_i hnone
          cases hw
          exact unmarked_of_text hno hnone
  | unmarked =>
    cases hw
    intro more
    rw [List.append_assoc]
    exact h _
  | marked shape =>
    cases hw
    obtain ⟨hline, hbegins⟩ := h
    refine ⟨?_, begins_append_of_begins hbegins _⟩
    rw [Shape.inks_append, ← hline]
    simp [Shape.inks, Piece.inks]

theorem reads_nil (hwords : "" ∉ words) : reads words [] = false := by
  rw [reads, List.any_eq_false]
  intro w hw hstart
  rw [List.isPrefixOf_iff_prefix, List.map_nil, List.prefix_nil, String.toList_eq_nil_iff] at hstart
  exact hwords (hstart ▸ hw)

/-- A page with one more line. -/
theorem own_concat {lines : List (List Ink)} {line : List Ink}
    (h : ∀ l ∈ lines, reads words l → begins words l)
    (hline : reads words line → begins words line) :
    ∀ l ∈ lines ++ [line], reads words l → begins words l := by
  intro l hl
  rcases List.mem_append.1 hl with hl | hl
  · exact h l hl
  · rwa [List.mem_singleton.1 hl]

theorem Draft.shows_endLine (hwords : "" ∉ words) (h : d.Shows words b p) :
    d.endLine.Shows words b (p.feed (Ink.ofChars true ['\n'])) := by
  obtain ⟨lines, last⟩ := d
  obtain ⟨hlines, hown, hlast⟩ := h
  have hplain (hreads : reads words p.last = false) :
      (⟨lines, .blank⟩ : Draft).Shows words b (p.feed (Ink.ofChars true ['\n'])) := by
    rw [Page.feed_end]
    refine ⟨?_, own_concat hown (by simp [hreads]), rfl⟩
    show (p.lines ++ [p.last]).filter _ = lines.map _
    rw [List.filter_append, List.filter_cons_of_neg
      (by rw [begins_of_reads_false hreads]; exact Bool.false_ne_true)]
    simpa using hlines
  cases last with
  | blank =>
    have hline : p.last = [] := hlast
    exact hplain (by rw [hline, reads_nil hwords])
  | unmarked =>
    have hunmarked : reads words p.last = false := by
      simpa using hlast []
    exact hplain hunmarked
  | marked shape =>
    obtain ⟨hline, hbegins⟩ := hlast
    rw [Page.feed_end]
    refine ⟨?_, own_concat hown fun _ => hbegins, rfl⟩
    show (p.lines ++ [p.last]).filter _ = (lines ++ [shape]).map _
    rw [List.filter_append, hlines, List.filter_cons_of_pos hbegins, List.map_append, hline]
    rfl

theorem Draft.shows_write (hwords : "" ∉ words) (h : d.Shows words b p)
    (hw : d.write words cs = some d') : d'.Shows words b (p.feed (Ink.ofChars true cs)) := by
  obtain ⟨last, hlast, hw⟩ := Option.bind_eq_some_iff.1 hw
  have hbody : '\n' ∉ cs.takeWhile (· ≠ '\n') := by
    intro hmem
    have hall := List.all_eq_true.1 (List.all_takeWhile (l := cs) (p := (· ≠ '\n'))) _ hmem
    simp at hall
  have hopen : (⟨d.lines, last⟩ : Draft).Shows words b
      (p.feed (Ink.ofChars true (cs.takeWhile (· ≠ '\n')))) := by
    rw [Page.feed_own hbody]
    exact ⟨h.lines, h.own, Opening.shows_write h.last hlast⟩
  rw [← List.takeWhile_append_dropWhile (p := (· ≠ '\n')) (l := cs), Ink.ofChars_append,
    Page.feed_append]
  split at hw
  · rename_i hrest
    cases hw
    rw [hrest]
    exact hopen
  · rename_i hrest
    cases hw
    rw [hrest]
    exact shows_endLine hwords hopen
  · cases hw

theorem Draft.shows_fill {o : Operand} (h : d.Shows words b p) (hf : d.fill e = some d')
    (ho : e.eval b = .ok o) : d'.Shows words b (p.feed (Ink.ofText false o.written)) := by
  obtain ⟨lines, last⟩ := d
  obtain ⟨hlines, hown, hlast⟩ := h
  obtain ⟨last', hl, rfl⟩ := Option.map_eq_some_iff.1 hf
  rw [Page.feed_value]
  refine ⟨hlines, hown, ?_⟩
  cases last with
  | blank => cases hl
  | unmarked =>
    cases hl
    intro more
    rw [List.append_assoc]
    exact hlast _
  | marked shape =>
    cases e with
    | name name =>
      cases hl
      obtain ⟨hline, hbegins⟩ := hlast
      refine ⟨?_, begins_append_of_begins hbegins _⟩
      rw [Shape.inks_append, ← hline, written_of_eval_name ho]
      simp [Shape.inks, Piece.inks]
    | _ => cases hl

/-- A binding that nothing in the draft mentions changes nothing of what it says. -/
theorem Draft.shows_cons (hno : d.mentions name = false) (v : Value) :
    d.Shows words ((name, v) :: b) p ↔ d.Shows words b p := by
  obtain ⟨lines, last⟩ := d
  rw [mentions, Bool.or_eq_false_iff, List.any_eq_false] at hno
  obtain ⟨hlines, hlast⟩ := hno
  have hinks : lines.map (Shape.inks ((name, v) :: b)) = lines.map (Shape.inks b) := by
    refine List.map_congr_left fun shape hs => Shape.inks_cons ?_ v b
    simpa using hlines shape hs
  have hshows : last.Shows words ((name, v) :: b) p.last ↔ last.Shows words b p.last := by
    cases last with
    | blank => exact Iff.rfl
    | unmarked => exact Iff.rfl
    | marked shape =>
      rw [Opening.Shows, Opening.Shows, Shape.inks_cons hlast]
  constructor
  · rintro ⟨h, hown, h'⟩
    exact ⟨h.trans hinks, hown, hshows.1 h'⟩
  · rintro ⟨h, hown, h'⟩
    exact ⟨h.trans hinks.symm, hown, hshows.2 h'⟩

/-- One of the drafts says how the page came out. -/
def Shown (words : List String) (b : Bindings) (drafts : List Draft) (p : Page) : Prop :=
  ∃ d ∈ drafts, d.Shows words b p

theorem shown_advance {f : Draft → Option Draft} {p' : Page}
    (h : Shown words b drafts p) (hf : advance f drafts = some after)
    (hstep : ∀ d d', d.Shows words b p → f d = some d' → d'.Shows words b p') :
    Shown words b after p' := by
  obtain ⟨d, hd, hshows⟩ := h
  obtain ⟨stepped, hstepped, rfl⟩ := Option.map_eq_some_iff.1 hf
  obtain ⟨d', hd', hmem⟩ := mem_of_mapM hstepped hd
  exact ⟨d', List.mem_eraseDups.2 hmem, hstep d d' hshows hd'⟩

theorem Shown.either {chosen other : List Draft}
    (h : Shown words b chosen p ∨ Shown words b other p) :
    Shown words b (chosen ++ other).eraseDups p := by
  rcases h with ⟨d, hd, hshows⟩ | ⟨d, hd, hshows⟩
  · exact ⟨d, List.mem_eraseDups.2 (List.mem_append_left other hd), hshows⟩
  · exact ⟨d, List.mem_eraseDups.2 (List.mem_append_right chosen hd), hshows⟩

theorem Shown.cons (hno : drafts.any (Draft.mentions name) = false) (v : Value) :
    Shown words ((name, v) :: b) drafts p ↔ Shown words b drafts p := by
  rw [List.any_eq_false] at hno
  have hiff : ∀ d ∈ drafts, d.Shows words ((name, v) :: b) p ↔ d.Shows words b p := by
    intro d hd
    exact Draft.shows_cons (by simpa using hno d hd) v
  constructor
  · rintro ⟨d, hd, h⟩
    exact ⟨d, hd, (hiff d hd).1 h⟩
  · rintro ⟨d, hd, h⟩
    exact ⟨d, hd, (hiff d hd).2 h⟩

/-- However a template comes out, the scan has foreseen it. -/
theorem shown_scan {sp : Spelling t} (hwords : "" ∉ words)
    (hscan : scan words sp drafts = some after) (hprint : t.print b = .ok inks) (h : Shown words b drafts p) :
    Shown words b after (p.feed inks) := by
  induction sp generalizing b drafts after inks p with
  | done =>
    cases hscan
    cases hprint
    exact h
  | text cs rest ih =>
    obtain ⟨mid, hmid, hscan⟩ := Option.bind_eq_some_iff.1 hscan
    obtain ⟨rest, hrest, rfl⟩ := print_text_ok hprint
    rw [Page.feed_append, Ink.ofText, String.toList_ofList]
    exact ih hscan hrest (shown_advance h hmid fun d d' hd hw => Draft.shows_write hwords hd hw)
  | value e rest ih =>
    obtain ⟨mid, hmid, hscan⟩ := Option.bind_eq_some_iff.1 hscan
    obtain ⟨o, rest, ho, hrest, rfl⟩ := print_value_ok hprint
    rw [Page.feed_append]
    exact ih hscan hrest (shown_advance h hmid fun d d' hd hf => Draft.shows_fill hd hf ho)
  | branch test chosen other rest ihyes ihno ih =>
    obtain ⟨chosen, hyes, hscan⟩ := Option.bind_eq_some_iff.1 hscan
    obtain ⟨other, hno, hscan⟩ := Option.bind_eq_some_iff.1 hscan
    obtain ⟨taken, rest, htaken, hrest, rfl⟩ := print_branch_ok hprint
    rw [Page.feed_append]
    refine ih hscan hrest (Shown.either ?_)
    rcases htaken with ht | ht
    · exact .inl (ihyes hyes ht h)
    · exact .inr (ihno hno ht h)
  | @loop name source body otherwise next round instead rest ihbody ihotherwise ih =>
    obtain ⟨round, hround, hscan⟩ := Option.bind_eq_some_iff.1 hscan
    obtain ⟨instead, hinstead, hscan⟩ := Option.bind_eq_some_iff.1 hscan
    split at hscan
    · cases hscan
    · rename_i hkept
      rw [Bool.not_eq_true, Bool.or_eq_false_iff, Bool.not_eq_false'] at hkept
      obtain ⟨hfree, hall⟩ := hkept
      obtain ⟨o, items, parts, other, rest, -, -, hparts, hother, hrest, rfl⟩ :=
        print_loop_ok hprint
      -- every round leads from one of the drafts to one of them
      have hrounds : ∀ (parts : List (List Ink)) (p : Page),
          (∀ part ∈ parts, ∃ v ∈ items, body.print ((name, v) :: b) = .ok part) →
          Shown words b drafts p → Shown words b drafts (p.feed parts.flatten) := by
        intro parts
        induction parts with
        | nil => exact fun p _ hp => hp
        | cons part more ihparts =>
          intro p hprints hp
          rw [List.flatten_cons, Page.feed_append]
          apply ihparts _ fun q hq => hprints q (List.mem_cons_of_mem part hq)
          obtain ⟨v, -, hv⟩ := hprints part List.mem_cons_self
          obtain ⟨d, hd, hshows⟩ := ihbody hround hv ((Shown.cons hfree v).2 hp)
          have hback := List.contains_iff_mem.1 (List.all_eq_true.1 hall d hd)
          exact (Shown.cons hfree v).1 ⟨d, hback, hshows⟩
      have hloop := hrounds parts p hparts h
      rw [Page.feed_append, Page.feed_append]
      refine ih hscan hrest (Shown.either ?_)
      rcases hother with rfl | hother
      · exact .inl hloop
      · exact .inr (ihotherwise hinstead hother hloop)

/-- What the scan of a template that ends with a line end says of its lines: the marked ones are
known, and no other line reads like one. -/
theorem scan_lines {sp : Spelling t} (hwords : "" ∉ words)
    (hscan : scan words sp [⟨[], .blank⟩] = some after)
    (hended : ∀ d ∈ after, d.last = .blank) (hprint : t.print b = .ok inks) :
    ∃ d ∈ after, (lines inks).filter (begins words) = d.lines.map (Shape.inks b) ∧
      (Page.blank.feed inks).last = [] ∧
      ∀ line ∈ lines inks, reads words line → begins words line := by
  have hblank : Shown words b [⟨[], .blank⟩] Page.blank :=
    ⟨_, List.mem_singleton_self _, rfl, by simp [Page.blank], rfl⟩
  obtain ⟨d, hd, hlines, hown, hlast⟩ := shown_scan hwords hscan hprint hblank
  rw [hended d hd] at hlast
  have hempty : (Page.blank.feed inks).last = [] := hlast
  have hnone := begins_of_reads_false (reads_nil hwords)
  refine ⟨d, hd, ?_, hempty, ?_⟩
  · rw [lines, List.filter_append, hlines, hempty,
      List.filter_cons_of_neg (by rw [hnone]; exact Bool.false_ne_true)]
    simp
  · rw [lines, hempty]
    exact own_concat hown (by rw [reads_nil hwords]; exact fun h => absurd h Bool.false_ne_true)

end Groundwork.Template
