import Groundwork.Proofs.Result
import Groundwork.Template.Render

/-!
# What a template prints itself

Printing keeps apart what a template's own text brings and what its values bring. A printed line is
one that the template ends: a line end inside a value is part of the line.
-/

namespace Groundwork

/-- The text that a name prints. -/
def Bindings.written (b : Bindings) (name : String) : String :=
  match b.find? name with
  | some v => v.written
  | none => ""

namespace Template

/-- A printed character, and whether the template's own text brought it. -/
structure Ink where
  char : Char
  own : Bool
  deriving DecidableEq

namespace Ink

def ofChars (own : Bool) (cs : List Char) : List Ink :=
  cs.map fun c => ⟨c, own⟩

def ofText (own : Bool) (s : String) : List Ink :=
  ofChars own s.toList

def text (inks : List Ink) : String :=
  .ofList (inks.map char)

theorem ofChars_append (own : Bool) (cs cs' : List Char) :
    ofChars own (cs ++ cs') = ofChars own cs ++ ofChars own cs' :=
  List.map_append

@[simp] theorem text_append (inks inks' : List Ink) : text (inks ++ inks') = text inks ++ text inks' := by
  simp [text]

@[simp] theorem text_ofChars (own : Bool) (cs : List Char) : text (ofChars own cs) = .ofList cs := by
  rw [text, ofChars, List.map_map]
  show String.ofList (cs.map id) = _
  rw [List.map_id]

@[simp] theorem text_ofText (own : Bool) (s : String) : text (ofText own s) = s := by
  rw [ofText, text_ofChars, String.ofList_toList]

/-- What a character is shown as: only one that a value brought is escaped. -/
def shown : Escaping → Ink → List Char
  | .off, i => [i.char]
  | .markup, i => if i.own then [i.char] else escapeChar i.char

/-- What was printed, as a text under an escaping. -/
def shownText (escaping : Escaping) (inks : List Ink) : String :=
  .ofList (inks.flatMap (shown escaping))

section Shown

variable {escaping : Escaping}

@[simp] theorem shownText_append (inks inks' : List Ink) :
    shownText escaping (inks ++ inks') = shownText escaping inks ++ shownText escaping inks' := by
  simp [shownText]

theorem shownText_flatten (parts : List (List Ink)) :
    shownText escaping parts.flatten = String.join (parts.map (shownText escaping)) := by
  induction parts with
  | nil => rfl
  | cons part rest ih =>
    rw [List.flatten_cons, shownText_append, ih, List.map_cons, String.join_cons]

theorem shownText_off (inks : List Ink) : shownText .off inks = text inks := by
  rw [shownText, text]
  exact congrArg String.ofList List.map_eq_flatMap.symm

theorem shownText_own (s : String) : shownText escaping (ofText true s) = s := by
  have hshown (c : Char) : shown escaping ⟨c, true⟩ = [c] := by cases escaping <;> rfl
  rw [shownText, ofText, ofChars, List.flatMap_map]
  simp only [hshown, List.flatMap_singleton', String.ofList_toList]

theorem shownText_value (s : String) : shownText escaping (ofText false s) = escaping.apply s := by
  cases escaping with
  | off => rw [shownText_off, text_ofText, Escaping.apply]
  | markup =>
    rw [shownText, ofText, ofChars, List.flatMap_map]
    rfl

end Shown

end Ink

/-- The template filled in without escaping, in two inks. -/
def print (bindings : Bindings) : Template → Except Fault (List Ink)
  | done => .ok []
  | text s next => do
    let rest ← print bindings next
    .ok (Ink.ofText true s ++ rest)
  | value e next => do
    let o ← e.eval bindings
    let rest ← print bindings next
    .ok (Ink.ofText false o.written ++ rest)
  | branch test yes no next => do
    let o ← test.eval bindings
    let chosen ← (if o.holds then print bindings yes else print bindings no)
    let rest ← print bindings next
    .ok (chosen ++ rest)
  | loop name source body otherwise next => do
    let items ← (← source.eval bindings).items
    let parts ← items.mapM fun v => print ((name, v) :: bindings) body
    let instead ← (if items.isEmpty then print bindings otherwise else .ok [])
    let rest ← print bindings next
    .ok (parts.flatten ++ instead ++ rest)

section Inversion

variable {bindings : Bindings} {inks : List Ink} {s name : String} {e : Expr}
  {yes no body otherwise next : Template}

theorem print_text_ok (h : (text s next).print bindings = .ok inks) :
    ∃ rest, next.print bindings = .ok rest ∧ inks = Ink.ofText true s ++ rest := by
  obtain ⟨rest, hrest, h⟩ := bind_ok h
  cases h
  exact ⟨rest, hrest, rfl⟩

theorem print_value_ok (h : (value e next).print bindings = .ok inks) :
    ∃ o rest, e.eval bindings = .ok o ∧ next.print bindings = .ok rest ∧
      inks = Ink.ofText false o.written ++ rest := by
  obtain ⟨o, ho, h⟩ := bind_ok h
  obtain ⟨rest, hrest, h⟩ := bind_ok h
  cases h
  exact ⟨o, rest, ho, hrest, rfl⟩

theorem written_of_eval_name {o : Operand} (h : (Expr.name name).eval bindings = .ok o) :
    o.written = bindings.written name := by
  rw [Expr.eval] at h
  rw [Bindings.written]
  cases hv : bindings.find? name with
  | some v =>
    rw [hv] at h
    cases h
    rfl
  | none =>
    rw [hv] at h
    cases h
    rfl

theorem print_put_ok (h : (put name next).print bindings = .ok inks) :
    ∃ rest, next.print bindings = .ok rest ∧
      inks = Ink.ofText false (bindings.written name) ++ rest := by
  obtain ⟨o, rest, ho, hrest, rfl⟩ := print_value_ok h
  exact ⟨rest, hrest, by rw [written_of_eval_name ho]⟩

theorem print_branch_ok {test : Expr} (h : (branch test yes no next).print bindings = .ok inks) :
    ∃ chosen rest, (yes.print bindings = .ok chosen ∨ no.print bindings = .ok chosen) ∧
      next.print bindings = .ok rest ∧ inks = chosen ++ rest := by
  obtain ⟨o, -, h⟩ := bind_ok h
  obtain ⟨chosen, hchosen, h⟩ := bind_ok h
  obtain ⟨rest, hrest, h⟩ := bind_ok h
  cases h
  refine ⟨chosen, rest, ?_, hrest, rfl⟩
  split at hchosen
  · exact .inl hchosen
  · exact .inr hchosen

theorem print_loop_ok {source : Expr}
    (h : (loop name source body otherwise next).print bindings = .ok inks) :
    ∃ (o : Operand) (items : List Value) (parts : List (List Ink)) (instead rest : List Ink),
      source.eval bindings = .ok o ∧ o.items = .ok items ∧
      (∀ part ∈ parts, ∃ v ∈ items, body.print ((name, v) :: bindings) = .ok part) ∧
      (instead = [] ∨ otherwise.print bindings = .ok instead) ∧
      next.print bindings = .ok rest ∧ inks = parts.flatten ++ instead ++ rest := by
  obtain ⟨o, ho, h⟩ := bind_ok h
  obtain ⟨items, hitems, h⟩ := bind_ok h
  obtain ⟨parts, hparts, h⟩ := bind_ok h
  obtain ⟨instead, hinstead, h⟩ := bind_ok h
  obtain ⟨rest, hrest, h⟩ := bind_ok h
  cases h
  refine ⟨o, items, parts, instead, rest, ho, hitems, mapM_ok hparts, ?_, hrest, rfl⟩
  split at hinstead
  · exact .inr hinstead
  · cases hinstead
    exact .inl rfl

/-- A repetition over the items of its source, each of which prints a text of its own. -/
theorem print_loop_chars {α : Type} {source : Expr} {o : Operand} {as : List α} {k : α → Value}
    {g : α → List Char} (h : (loop name source body done next).print bindings = .ok inks)
    (hsource : source.eval bindings = .ok o) (hitems : o.items = .ok (as.map k))
    (hbody : ∀ a ∈ as, ∀ part, body.print ((name, k a) :: bindings) = .ok part →
      part.map Ink.char = g a) :
    ∃ rest, next.print bindings = .ok rest ∧
      inks.map Ink.char = as.flatMap g ++ rest.map Ink.char := by
  obtain ⟨o', ho', h⟩ := bind_ok h
  obtain ⟨items, hitems', h⟩ := bind_ok h
  obtain ⟨parts, hparts, h⟩ := bind_ok h
  obtain ⟨instead, hinstead, h⟩ := bind_ok h
  obtain ⟨rest, hrest, h⟩ := bind_ok h
  cases h
  obtain rfl := Except.ok.inj (hsource.symm.trans ho')
  obtain rfl := Except.ok.inj (hitems.symm.trans hitems')
  have hnone : instead = [] := by
    split at hinstead <;> cases hinstead <;> rfl
  rw [List.mapM_map] at hparts
  refine ⟨rest, hrest, ?_⟩
  rw [hnone, List.append_nil, List.map_append, List.map_flatten, map_of_mapM hparts hbody,
    List.flatMap]

end Inversion

section Filled

variable (escaping : Escaping)

theorem map_mapM {α : Type} (f : α → Except Fault (List Ink)) (as : List α) :
    as.mapM (fun a => (f a).map (Ink.shownText escaping)) =
      (as.mapM f).map fun parts => parts.map (Ink.shownText escaping) := by
  induction as with
  | nil => rfl
  | cons a rest ih =>
    rw [List.mapM_cons, List.mapM_cons, ih]
    cases f a with
    | error fault => rfl
    | ok b =>
      cases rest.mapM f with
      | error fault => rfl
      | ok bs => rfl

theorem map_shownText_append (x y : Except Fault (List Ink)) :
    (x >>= fun inks => y >>= fun rest => .ok (inks ++ rest)).map (Ink.shownText escaping)
      = (x.map (Ink.shownText escaping) >>= fun s =>
          y.map (Ink.shownText escaping) >>= fun s' => .ok (s ++ s')) := by
  cases x with
  | error fault => rfl
  | ok inks =>
    cases y with
    | error fault => rfl
    | ok rest => simp [Except.map, bind, Except.bind]

/-- The template filled in is what it prints, with the values' characters escaped. -/
theorem fill_eq (t : Template) (bindings : Bindings) :
    t.fill escaping bindings = (t.print bindings).map (Ink.shownText escaping) := by
  induction t generalizing bindings with
  | done => cases escaping <;> rfl
  | text s next ih =>
    have hrest := map_shownText_append escaping (.ok (Ink.ofText true s))
      (next.print bindings)
    simp only [Except.map, Ink.shownText_own] at hrest
    rw [fill, ih]
    exact hrest.symm
  | value e next ih =>
    rw [fill, print, ih]
    cases e.eval bindings with
    | error fault => rfl
    | ok o =>
      have hrest := map_shownText_append escaping (.ok (Ink.ofText false o.written))
        (next.print bindings)
      simp only [Except.map, Ink.shownText_value] at hrest
      exact hrest.symm
  | branch test yes no next ihyes ihno ih =>
    rw [fill, print, ih]
    cases test.eval bindings with
    | error fault => rfl
    | ok o =>
      by_cases ho : o.holds
      · simp only [bind, Except.bind, if_pos ho, ihyes]
        exact (map_shownText_append escaping (yes.print bindings) (next.print bindings)).symm
      · simp only [bind, Except.bind, if_neg ho, ihno]
        exact (map_shownText_append escaping (no.print bindings) (next.print bindings)).symm
  | loop name source body otherwise next ihbody ihotherwise ih =>
    rw [fill, print, ih]
    cases source.eval bindings with
    | error fault => rfl
    | ok o =>
      simp only [bind, Except.bind]
      cases o.items with
      | error fault => rfl
      | ok items =>
        have hparts := map_mapM escaping
          (fun v => print ((name, v) :: bindings) body) items
        simp only [ihbody]
        rw [hparts]
        cases items.mapM fun v => print ((name, v) :: bindings) body with
        | error fault => rfl
        | ok parts =>
          have hrest (instead : List Ink) := map_shownText_append escaping
            (.ok (parts.flatten ++ instead)) (next.print bindings)
          simp only [Except.map, Ink.shownText_append, Ink.shownText_flatten] at hrest
          by_cases hitems : items.isEmpty
          · simp only [Except.map, if_pos hitems, ihotherwise]
            cases otherwise.print bindings with
            | error fault => rfl
            | ok instead => exact (hrest instead).symm
          · simp only [Except.map, if_neg hitems]
            exact (hrest []).symm

end Filled

/-- The text that is printed is the template filled in without escaping. -/
theorem fill_off (t : Template) (bindings : Bindings) :
    t.fill .off bindings = (t.print bindings).map Ink.text := by
  rw [fill_eq]
  exact congrArg (fun f => (t.print bindings).map f) (funext Ink.shownText_off)

/-- One template after the other. -/
def followedBy : Template → Template → Template
  | done, last => last
  | text s next, last => text s (next.followedBy last)
  | value e next, last => value e (next.followedBy last)
  | branch test yes no next, last => branch test yes no (next.followedBy last)
  | loop name source body otherwise next, last =>
    loop name source body otherwise (next.followedBy last)

theorem print_followedBy {t last : Template} {b : Bindings} {inks : List Ink}
    (h : (t.followedBy last).print b = .ok inks) :
    ∃ front back, t.print b = .ok front ∧ last.print b = .ok back ∧ inks = front ++ back := by
  induction t generalizing inks with
  | done => exact ⟨[], inks, rfl, h, rfl⟩
  | text s next ih =>
    obtain ⟨rest, hrest, rfl⟩ := print_text_ok h
    obtain ⟨front, back, hfront, hback, rfl⟩ := ih hrest
    refine ⟨Ink.ofText true s ++ front, back, ?_, hback, (List.append_assoc _ _ _).symm⟩
    simp [print, hfront, bind, Except.bind]
  | value e next ih =>
    obtain ⟨o, rest, ho, hrest, rfl⟩ := print_value_ok h
    obtain ⟨front, back, hfront, hback, rfl⟩ := ih hrest
    refine ⟨Ink.ofText false o.written ++ front, back, ?_, hback,
      (List.append_assoc _ _ _).symm⟩
    simp [print, ho, hfront, bind, Except.bind]
  | branch test yes no next _ _ ih =>
    obtain ⟨o, ho, h⟩ := bind_ok h
    obtain ⟨chosen, hchosen, h⟩ := bind_ok h
    obtain ⟨rest, hrest, h⟩ := bind_ok h
    cases h
    obtain ⟨front, back, hfront, hback, rfl⟩ := ih hrest
    refine ⟨chosen ++ front, back, ?_, hback, (List.append_assoc _ _ _).symm⟩
    simp [print, ho, hchosen, hfront, bind, Except.bind]
  | loop name source body otherwise next _ _ ih =>
    obtain ⟨o, ho, h⟩ := bind_ok h
    obtain ⟨items, hitems, h⟩ := bind_ok h
    obtain ⟨parts, hparts, h⟩ := bind_ok h
    obtain ⟨instead, hinstead, h⟩ := bind_ok h
    obtain ⟨rest, hrest, h⟩ := bind_ok h
    cases h
    obtain ⟨front, back, hfront, hback, rfl⟩ := ih hrest
    refine ⟨parts.flatten ++ instead ++ front, back, ?_, hback, (List.append_assoc _ _ _).symm⟩
    simp only [List.isEmpty_iff] at hinstead
    simp [print, ho, hitems, hparts, hinstead, hfront, bind, Except.bind]

/-- Ink in lines: those that are ended, and the one that is open. -/
structure Page where
  lines : List (List Ink)
  last : List Ink

namespace Page

def blank : Page := ⟨[], []⟩

/-- Only a line end of the template's own ends the line. -/
def put (p : Page) (i : Ink) : Page :=
  if i.own && i.char = '\n' then ⟨p.lines ++ [p.last], []⟩ else ⟨p.lines, p.last ++ [i]⟩

def feed (p : Page) (inks : List Ink) : Page :=
  inks.foldl put p

@[simp] theorem feed_nil (p : Page) : p.feed [] = p := rfl

@[simp] theorem feed_append (p : Page) (inks inks' : List Ink) :
    p.feed (inks ++ inks') = (p.feed inks).feed inks' :=
  List.foldl_append

theorem feed_of_no_end {inks : List Ink} (h : ∀ i ∈ inks, i ≠ ⟨'\n', true⟩) (p : Page) :
    p.feed inks = ⟨p.lines, p.last ++ inks⟩ := by
  induction inks generalizing p with
  | nil => simp
  | cons i rest ih =>
    have hi : ¬ (i.own && i.char = '\n') = true := by
      intro he
      rw [Bool.and_eq_true, decide_eq_true_eq] at he
      obtain ⟨hown, hchar⟩ := he
      apply h i List.mem_cons_self
      rw [← hown, ← hchar]
    have hput : p.feed (i :: rest) = (p.put i).feed rest := rfl
    rw [hput, put, if_neg hi, ih fun j hj => h j (List.mem_cons_of_mem i hj)]
    simp

theorem feed_value (p : Page) (s : String) :
    p.feed (Ink.ofText false s) = ⟨p.lines, p.last ++ Ink.ofText false s⟩ := by
  apply feed_of_no_end
  intro i hi he
  obtain ⟨c, -, rfl⟩ := List.mem_map.1 hi
  cases he

theorem feed_own {cs : List Char} (h : '\n' ∉ cs) (p : Page) :
    p.feed (Ink.ofChars true cs) = ⟨p.lines, p.last ++ Ink.ofChars true cs⟩ := by
  apply feed_of_no_end
  intro i hi he
  obtain ⟨c, hc, rfl⟩ := List.mem_map.1 hi
  cases he
  exact h hc

theorem feed_end (p : Page) : p.feed (Ink.ofChars true ['\n']) = ⟨p.lines ++ [p.last], []⟩ := rfl

end Page

/-- The lines of what was printed. -/
def lines (inks : List Ink) : List (List Ink) :=
  let page := Page.blank.feed inks
  page.lines ++ [page.last]

end Template

end Groundwork
