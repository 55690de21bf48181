import Groundwork.Proofs.Template.Inline
import Groundwork.Proofs.Text.Elements

/-!
# Documents of elements

A document is one element, with elements and text in it, and every start tag is closed in order. It
is read character by character: what of the document is being read decides what a character does,
and a tag that ends moves to another place among the elements. Text is taken from one element, the
first at some path, which may have nothing else in it. Outside of tags, `<` and `&` can only begin
a tag or a reference, and give no text themselves.

Documents with comments, sections or declarations of their own are not read.
-/

namespace Groundwork.Text.Document

open Template

/-- A digit in some base up to sixteen. -/
def digit? (base : Nat) (c : Char) : Option Nat :=
  let n := if c.isDigit then c.toNat - 48
    else if c.isUpper then c.toNat - 55
    else c.toNat - 87
  if c.isAlphanum && n < base then some n else none

/-- The character with a number. -/
def numbered? (base : Nat) (digits : List Char) : Option Char :=
  if digits = [] then none
  else (digits.foldlM (fun n c => (digit? base c).map (base * n + ·)) 0).bind fun n =>
    if n ≠ 0 ∧ n.isValidChar then some (.ofNat n) else none

/-- The character that a reference stands for. -/
def referred? : List Char → Option Char
  | '#' :: 'x' :: digits => numbered? 16 digits
  | '#' :: digits => numbered? 10 digits
  | cs => List.lookup (String.ofList cs)
    [("lt", '<'), ("gt", '>'), ("amp", '&'), ("quot", '\x22'), ("apos", '\'')]

def startsName (c : Char) : Bool :=
  c.isAlpha || c = '_' || c = ':'

def inName (c : Char) : Bool :=
  c.isAlphanum || c = '_' || c = ':' || c = '-' || c = '.'

/-- What of a document is being read. A start tag keeps its name while its attributes are read. -/
inductive Mode where
  | text
  | reference (cs : List Char)
  | tag
  | instruction (question : Bool)
  | opening (name : List Char)
  | gap (name : List Char)
  | key (name : List Char)
  | assigned (name : List Char)
  | quoted (name : List Char) (quote : Char)
  | unquoted (name : List Char)
  | emptying (name : List Char)
  | closing (name : List Char)
  deriving Repr, DecidableEq

/-- A tag that has been read, or a character of the text. -/
inductive Event where
  | opened (name : List Char)
  | closed (name : List Char)
  | emptied (name : List Char)
  | data (c : Char)
  deriving Repr, DecidableEq

namespace Mode

/-- What can follow the name and the attributes of a start tag. -/
def endTag (name : List Char) (c : Char) : Option (Mode × Option Event) :=
  if c.isWhitespace then some (gap name, none)
  else if c = '/' then some (emptying name, none)
  else if c = '>' then some (text, some (.opened name))
  else none

def next : Mode → Char → Option (Mode × Option Event)
  | text, c =>
    if c = '<' then some (tag, none)
    else if c = '&' then some (reference [], none)
    else some (text, some (.data c))
  | reference cs, c =>
    if c = ';' then (referred? cs).map fun d => (text, some (.data d))
    else if c.isAlphanum || c = '#' then some (reference (cs ++ [c]), none)
    else none
  | tag, c =>
    if c = '/' then some (closing [], none)
    else if c = '?' then some (instruction false, none)
    else if startsName c then some (opening [c], none)
    else none
  | instruction question, c =>
    if c = '<' then none
    else if question && c = '>' then some (text, none)
    else some (instruction (c = '?'), none)
  | opening name, c => if inName c then some (opening (name ++ [c]), none) else endTag name c
  | gap name, c => if startsName c then some (key name, none) else endTag name c
  | key name, c =>
    if inName c then some (key name, none)
    else if c = '=' then some (assigned name, none)
    else none
  | assigned name, c => if c = '\x22' || c = '\'' then some (quoted name c, none) else none
  | quoted name quote, c =>
    if c = '<' then none
    else if c = quote then some (unquoted name, none)
    else some (quoted name quote, none)
  | unquoted name, c => endTag name c
  | emptying name, c => if c = '>' then some (text, some (.emptied name)) else none
  | closing name, c =>
    if inName c then some (closing (name ++ [c]), none)
    else if c = '>' then some (text, some (.closed name))
    else none

end Mode

/-- Where reading is with the element whose text is taken. -/
inductive Phase where
  | before
  | inside
  | after
  deriving Repr, DecidableEq

/-- The elements that are open, from the innermost one outwards, and whether there has been one. -/
structure Place where
  path : List (List Char)
  rooted : Bool
  phase : Phase
  deriving Repr, DecidableEq

structure State where
  mode : Mode
  place : Place
  deriving Repr, DecidableEq

section

variable (target : List (List Char))

namespace Place

def enter (p : Place) (name : List Char) : Option Place :=
  if p.phase = .inside ∨ (p.path = [] ∧ p.rooted) then none
  else
    let here := p.phase = .before ∧ name :: p.path = target
    some ⟨name :: p.path, true, if here then .inside else p.phase⟩

def leave (p : Place) (name : List Char) : Option Place :=
  if p.path.head? = some name then
    some ⟨p.path.tail, p.rooted, if p.phase = .inside then .after else p.phase⟩
  else none

def move (p : Place) : Event → Option (Place × List Char)
  | .opened name => (p.enter target name).map (·, [])
  | .closed name => (p.leave name).map (·, [])
  | .emptied name => ((p.enter target name).bind (·.leave name)).map (·, [])
  | .data c =>
    if p.path = [] then if c.isWhitespace then some (p, []) else none
    else some (p, if p.phase = .inside then [c] else [])

end Place

/-- What a character leads to, and the text that it gives. -/
def step (q : State) (c : Char) : Option (State × List Char) :=
  (q.mode.next c).bind fun
    | (mode, none) => some (⟨mode, q.place⟩, [])
    | (mode, some event) => (q.place.move target event).map fun (place, out) => (⟨mode, place⟩, out)

def run (q : State) : List Char → Option (State × List Char)
  | [] => some (q, [])
  | c :: cs => (step target q c).bind fun (q', out) =>
    (run q' cs).map fun (q'', more) => (q'', out ++ more)

end

def start : State :=
  ⟨.text, [], false, .before⟩

def finish : State :=
  ⟨.text, [], true, .after⟩

/-- The text of the first element at some path of a document. -/
def text? (path : List String) (x : String) : Option String :=
  (run (path.map String.toList).reverse start x.toList).bind fun (q, out) =>
    if q = finish then some (.ofList out) else none

example : text? ["a", "b"] "<a x='1'>\n <c/><b>R&amp;D &#65;&#x3e;</b><b/></a>" = some "R&D A>" := by
  decide

variable {target : List (List Char)} {q q' : State} {p p' : Place} {event : Event} {c : Char}
  {cs cs' out out' : List Char}

theorem run_cons {first : List Char} (h : step target q c = some (q', first)) (cs : List Char) :
    run target q (c :: cs) = (run target q' cs).map fun (q'', more) => (q'', first ++ more) := by
  rw [run, h]
  rfl

/-- A character that gives no text only changes where reading is. -/
theorem run_cons_nil (h : step target q c = some (q', [])) (cs : List Char) :
    run target q (c :: cs) = run target q' cs := by
  rw [run_cons h]
  exact Option.map_id'

theorem of_run_cons (h : run target q (c :: cs) = some (q', out)) :
    ∃ mid first more, step target q c = some (mid, first) ∧
      run target mid cs = some (q', more) ∧ out = first ++ more := by
  obtain ⟨⟨mid, first⟩, hstep, h⟩ := Option.bind_eq_some_iff.1 h
  obtain ⟨⟨last, more⟩, hrun, he⟩ := Option.map_eq_some_iff.1 h
  cases he
  exact ⟨mid, first, more, hstep, hrun, rfl⟩

theorem run_append (q : State) (cs cs' : List Char) : run target q (cs ++ cs')
    = (run target q cs).bind fun (q', out) =>
      (run target q' cs').map fun (q'', more) => (q'', out ++ more) := by
  induction cs generalizing q with
  | nil =>
    show run target q cs' = (run target q cs').map _
    cases run target q cs' <;> rfl
  | cons c rest ih =>
    rw [List.cons_append, run, run]
    cases step target q c with
    | none => rfl
    | some first =>
      obtain ⟨q', out⟩ := first
      simp only [Option.bind_some, ih]
      cases run target q' rest with
      | none => rfl
      | some later =>
        obtain ⟨q'', more⟩ := later
        simp only [Option.bind_some, Option.map_some, Option.map_map, Function.comp_def,
          List.append_assoc]

theorem run_append_of_eq {last : State} {more : List Char}
    (h : run target q cs = some (q', out)) (h' : run target q' cs' = some (last, more)) :
    run target q (cs ++ cs') = some (last, out ++ more) := by
  rw [run_append, h]
  show (run target q' cs').map _ = _
  rw [h']
  rfl

theorem of_run_append (h : run target q (cs ++ cs') = some (q', out)) :
    ∃ mid front back, run target q cs = some (mid, front) ∧
      run target mid cs' = some (q', back) ∧ out = front ++ back := by
  rw [run_append] at h
  obtain ⟨⟨mid, front⟩, hfront, h⟩ := Option.bind_eq_some_iff.1 h
  obtain ⟨⟨last, back⟩, hback, he⟩ := Option.map_eq_some_iff.1 h
  cases he
  exact ⟨mid, front, back, hfront, hback, rfl⟩

/-- What a step can do: move, with the tag or the character that it ends, or stay. -/
theorem step_cases (h : step target q c = some (q', out)) :
    (q.mode.next c = some (q'.mode, none) ∧ q'.place = q.place ∧ out = []) ∨
      ∃ event, q.mode.next c = some (q'.mode, some event) ∧
        q.place.move target event = some (q'.place, out) := by
  obtain ⟨⟨mode, ended⟩, hnext, h⟩ := Option.bind_eq_some_iff.1 h
  cases ended with
  | none =>
    cases h
    exact .inl ⟨hnext, rfl, rfl⟩
  | some event =>
    obtain ⟨⟨place, text⟩, hmove, he⟩ := Option.map_eq_some_iff.1 h
    cases he
    exact .inr ⟨event, hnext, hmove⟩

/-- A `<` is read outside of tags, and nowhere else. -/
theorem mode_of_step_open (h : step target q '<' = some (q', out)) : q.mode = .text := by
  have hnext : (q.mode.next '<').isSome := by
    obtain ⟨ended, hnext, -⟩ := Option.bind_eq_some_iff.1 h
    exact Option.isSome_of_eq_some hnext
  cases hmode : q.mode with
  | text => rfl
  | reference | tag | instruction | opening | gap | key | assigned | quoted | unquoted | emptying
  | closing =>
    rw [hmode] at hnext
    simp [Mode.next, Mode.endTag, startsName, inName] at hnext

/-! ### How much text there is -/

theorem length_move (h : p.move target event = some (p', out)) : out.length ≤ 1 := by
  cases event with
  | opened name | closed name | emptied name =>
    obtain ⟨place, -, he⟩ := Option.map_eq_some_iff.1 h
    cases he
    exact Nat.zero_le 1
  | data c =>
    rw [Place.move] at h
    split at h
    · split at h
      · cases h
        exact Nat.zero_le 1
      · cases h
    · cases h
      split
      · exact Nat.le_refl 1
      · exact Nat.zero_le 1

theorem length_step (h : step target q c = some (q', out)) : out.length ≤ 1 := by
  rcases step_cases h with ⟨-, -, rfl⟩ | ⟨event, -, hmove⟩
  · exact Nat.zero_le 1
  · exact length_move hmove

/-- Reading gives no more text than is read. -/
theorem length_run (h : run target q cs = some (q', out)) : out.length ≤ cs.length := by
  induction cs generalizing q out with
  | nil =>
    cases h
    exact Nat.le_refl 0
  | cons c rest ih =>
    obtain ⟨mid, first, more, hstep, hrun, rfl⟩ := of_run_cons h
    have hfirst := length_step hstep
    have hmore := ih hrun
    rw [List.length_append, List.length_cons]
    omega

/-- A character that stands for itself outside of tags. -/
def Bare (c : Char) : Prop :=
  c ≠ '<' ∧ c ≠ '&'

instance (c : Char) : Decidable (Bare c) :=
  inferInstanceAs (Decidable (_ ∧ _))

theorem next_of_bare (h : Bare c) : Mode.text.next c = some (.text, some (.data c)) := by
  rw [Mode.next, if_neg h.1, if_neg h.2]

theorem step_of_bare (hq : q.mode = .text) (hc : Bare c) : step target q c
    = (q.place.move target (.data c)).map fun (place, out) => (⟨.text, place⟩, out) := by
  rw [step, hq, next_of_bare hc]
  rfl

theorem out_of_not_bare (hq : q.mode = .text) (hc : ¬ Bare c)
    (h : step target q c = some (q', out)) : out = [] := by
  have hnext : ∃ mode, q.mode.next c = some (mode, none) := by
    rw [hq, Mode.next]
    by_cases hopen : c = '<'
    · exact ⟨_, if_pos hopen⟩
    · have hamp : c = '&' := Decidable.not_not.1 fun hamp => hc ⟨hopen, hamp⟩
      rw [if_neg hopen, if_pos hamp]
      exact ⟨_, rfl⟩
  obtain ⟨mode, hnext⟩ := hnext
  rcases step_cases h with ⟨-, -, hout⟩ | ⟨event, hevent, -⟩
  · exact hout
  · rw [hnext] at hevent
    cases hevent

/-- Bare text is read as it stands, and is taken inside the element. -/
theorem run_of_bare (hq : q.mode = .text) (hpath : q.place.path ≠ []) (hcs : ∀ c ∈ cs, Bare c) :
    run target q cs = some (q, if q.place.phase = .inside then cs else []) := by
  induction cs with
  | nil =>
    rw [ite_self]
    rfl
  | cons c rest ih =>
    obtain ⟨hc, hrest⟩ := List.forall_mem_cons.1 hcs
    have hstep : step target q c = some (q, if q.place.phase = .inside then [c] else []) := by
      obtain ⟨mode, place⟩ := q
      subst hq
      rw [step_of_bare rfl hc, Place.move, if_neg hpath]
      rfl
    rw [run_cons hstep, ih hrest]
    show some _ = some _
    split <;> rfl

/-- Text that is not bare gives less text than is read. -/
theorem length_run_lt (hq : q.mode = .text) (hcs : ¬ ∀ c ∈ cs, Bare c)
    (h : run target q cs = some (q', out)) : out.length < cs.length := by
  induction cs generalizing q out with
  | nil => exact absurd (fun c hc => nomatch hc) hcs
  | cons c rest ih =>
    obtain ⟨mid, first, more, hstep, hrun, rfl⟩ := of_run_cons h
    rw [List.length_append, List.length_cons]
    by_cases hc : Bare c
    · have hfirst := length_step hstep
      rw [step_of_bare hq hc] at hstep
      obtain ⟨⟨place, text⟩, -, he⟩ := Option.map_eq_some_iff.1 hstep
      cases he
      have hrest : ¬ ∀ c ∈ rest, Bare c := fun hall => hcs (List.forall_mem_cons.2 ⟨hc, hall⟩)
      have hlt := ih rfl hrest hrun
      omega
    · have hmore := length_run hrun
      rw [out_of_not_bare hq hc hstep, List.length_nil]
      omega

/-- Texts that lead back to where reading is, and give no text. -/
theorem run_flatMap {α : Type} {f : α → List Char} {as : List α}
    (h : ∀ a ∈ as, run target q (f a) = some (q, [])) :
    run target q (as.flatMap f) = some (q, []) := by
  induction as with
  | nil => rfl
  | cons a rest ih =>
    obtain ⟨ha, hrest⟩ := List.forall_mem_cons.1 h
    exact run_append_of_eq ha (ih hrest)

/-! ### Before and after the element -/

/-- Reading comes to the element and leaves it behind, and never goes back. -/
def Phase.rank : Phase → Nat
  | before => 0
  | inside => 1
  | after => 2

theorem rank_enter {name : List Char} (h : p.enter target name = some p') :
    p.phase.rank ≤ p'.phase.rank := by
  rw [Place.enter] at h
  split at h
  · cases h
  · cases h
    show p.phase.rank ≤ Phase.rank (if _ then _ else _)
    split
    · rename_i hhere
      rw [hhere.1]
      exact Nat.zero_le _
    · exact Nat.le_refl _

theorem rank_leave {name : List Char} (h : p.leave name = some p') :
    p.phase.rank ≤ p'.phase.rank := by
  rw [Place.leave] at h
  split at h
  · cases h
    show p.phase.rank ≤ Phase.rank (if _ then _ else _)
    split
    · rename_i hinside
      rw [hinside]
      exact Nat.le_succ 1
    · exact Nat.le_refl _
  · cases h

theorem rank_move (h : p.move target event = some (p', out)) : p.phase.rank ≤ p'.phase.rank := by
  cases event with
  | opened name =>
    obtain ⟨place, hplace, he⟩ := Option.map_eq_some_iff.1 h
    cases he
    exact rank_enter hplace
  | closed name =>
    obtain ⟨place, hplace, he⟩ := Option.map_eq_some_iff.1 h
    cases he
    exact rank_leave hplace
  | emptied name =>
    obtain ⟨place, hplace, he⟩ := Option.map_eq_some_iff.1 h
    cases he
    obtain ⟨inner, henter, hleave⟩ := Option.bind_eq_some_iff.1 hplace
    exact Nat.le_trans (rank_enter henter) (rank_leave hleave)
  | data c =>
    rw [Place.move] at h
    split at h
    · split at h
      · cases h
        exact Nat.le_refl _
      · cases h
    · cases h
      exact Nat.le_refl _

theorem rank_run (h : run target q cs = some (q', out)) :
    q.place.phase.rank ≤ q'.place.phase.rank := by
  induction cs generalizing q out with
  | nil =>
    cases h
    exact Nat.le_refl _
  | cons c rest ih =>
    obtain ⟨mid, first, more, hstep, hrun, -⟩ := of_run_cons h
    refine Nat.le_trans ?_ (ih hrun)
    rcases step_cases hstep with ⟨-, hplace, -⟩ | ⟨event, -, hmove⟩
    · exact Nat.le_of_eq (congrArg (Phase.rank ∘ Place.phase) hplace.symm)
    · exact rank_move hmove

theorem out_move (hp : p.phase ≠ .inside) (h : p.move target event = some (p', out)) :
    out = [] := by
  cases event with
  | opened name | closed name | emptied name =>
    obtain ⟨place, -, he⟩ := Option.map_eq_some_iff.1 h
    cases he
    rfl
  | data c =>
    rw [Place.move, if_neg hp] at h
    split at h
    · split at h
      · cases h
        rfl
      · cases h
    · cases h
      rfl

/-- No text is taken once the element has been left. -/
theorem out_run_after (hq : q.place.phase = .after) (h : run target q cs = some (q', out)) :
    out = [] := by
  induction cs generalizing q out with
  | nil =>
    cases h
    rfl
  | cons c rest ih =>
    obtain ⟨mid, first, more, hstep, hrun, rfl⟩ := of_run_cons h
    have hmid : mid.place.phase = .after := by
      have hrank := rank_run (run_cons hstep [])
      rw [hq] at hrank
      generalize mid.place.phase = phase at hrank
      cases phase with
      | after => rfl
      | before | inside => exact absurd hrank (by decide)
    have hfirst : first = [] := by
      rcases step_cases hstep with ⟨-, -, hout⟩ | ⟨event, -, hmove⟩
      · exact hout
      · exact out_move (by rw [hq]; exact nofun) hmove
    rw [hfirst, ih hmid hrun]
    rfl

/-! ### One value in a document -/

theorem text?_iff {path : List String} {x s : String} : text? path x = some s
    ↔ run (path.map String.toList).reverse start x.toList = some (finish, s.toList) := by
  unfold text?
  constructor
  · intro h
    obtain ⟨⟨q, out⟩, hrun, h⟩ := Option.bind_eq_some_iff.1 h
    dsimp only at h
    split at h
    · rename_i hq
      cases h
      rw [hrun, hq, String.toList_ofList]
    · cases h
  · intro h
    rw [h]
    show (if finish = finish then some (String.ofList s.toList) else none) = some s
    rw [if_pos rfl, String.ofList_toList]

theorem run_closing {place : Place} {name rest : List Char} (hrest : ∀ c ∈ rest, inName c) :
    run target ⟨.closing name, place⟩ (rest ++ ['>'])
      = (place.leave (name ++ rest)).map fun place => (⟨.text, place⟩, []) := by
  induction rest generalizing name with
  | nil =>
    have hstep : step target ⟨.closing name, place⟩ '>'
        = (place.leave name).map fun place => (⟨.text, place⟩, []) := by
      show Option.map _ ((place.leave name).map _) = _
      rw [Option.map_map]
      rfl
    rw [List.nil_append, List.append_nil, run, hstep]
    cases place.leave name <;> rfl
  | cons c rest ih =>
    obtain ⟨hc, hrest⟩ := List.forall_mem_cons.1 hrest
    have hstep : step target ⟨.closing name, place⟩ c
        = some (⟨.closing (name ++ [c]), place⟩, []) := by
      rw [step, Mode.next, if_pos hc]
      rfl
    rw [List.cons_append, run_cons_nil hstep, ih hrest, List.append_assoc]
    rfl

theorem closeTag_eq (tag : String) : closeTag tag = '<' :: '/' :: (tag.toList ++ ['>']) := by
  simp [closeTag]

/-- A closing tag leaves the innermost element, if that has its name. -/
theorem run_closeTag {tag : String} (hq : q.mode = .text) (htag : ∀ c ∈ tag.toList, inName c) :
    run target q (closeTag tag)
      = (q.place.leave tag.toList).map fun place => (⟨.text, place⟩, []) := by
  have hopen : step target q '<' = some (⟨.tag, q.place⟩, []) := by
    rw [step, hq]
    rfl
  have hslash : step target ⟨.tag, q.place⟩ '/' = some (⟨.closing [], q.place⟩, []) := rfl
  rw [closeTag_eq, run_cons_nil hopen, run_cons_nil hslash, run_closing htag, List.nil_append]

theorem leave_inside {name : List Char} (hp : p.phase = .inside) (h : p.leave name = some p') :
    p'.phase = .after := by
  rw [Place.leave, if_pos hp] at h
  split at h
  · cases h
    rfl
  · cases h

/-- Wherever a value has led from inside the element, no text is taken after its closing tag. -/
theorem out_from_closeTag {tag : String} (htag : ∀ c ∈ tag.toList, inName c)
    (hq : q.place.phase ≠ .before) (h : run target q (closeTag tag ++ cs) = some (q', out)) :
    out = [] := by
  obtain ⟨mid, front, back, hfront, hback, rfl⟩ := of_run_append h
  have hmode : q.mode = .text := by
    rw [closeTag_eq] at hfront
    obtain ⟨next, first, more, hstep, -, -⟩ := of_run_cons hfront
    exact mode_of_step_open hstep
  rw [run_closeTag hmode htag] at hfront
  obtain ⟨place, hleave, he⟩ := Option.map_eq_some_iff.1 hfront
  cases he
  rw [List.nil_append]
  refine out_run_after ?_ hback
  cases hphase : q.place.phase with
  | before => exact absurd hphase hq
  | inside => exact leave_inside hphase hleave
  | after =>
    have hrank := rank_leave hleave
    rw [hphase] at hrank
    generalize place.phase = phase at hrank
    cases phase with
    | after => rfl
    | before | inside => exact absurd hrank (by decide)

/-- A value that fills an element is only read back if it is bare. -/
theorem bare_of_text? {path : List String} {tag x s : String} {before rest : List Char}
    (hx : x.toList = before ++ (s.toList ++ (closeTag tag ++ rest)))
    (htag : ∀ c ∈ tag.toList, inName c)
    (hbefore : run (path.map String.toList).reverse start before = some (q, []))
    (hmode : q.mode = .text) (hphase : q.place.phase = .inside) (h : text? path x = some s) :
    ∀ c ∈ s.toList, Bare c := by
  rw [text?_iff, hx] at h
  obtain ⟨mid, front, back, hfront, hback, hall⟩ := of_run_append h
  rw [hbefore] at hfront
  cases hfront
  obtain ⟨filled, taken, more, htaken, hmore, rfl⟩ := of_run_append hback
  have hstarted : filled.place.phase ≠ .before := by
    have hrank := rank_run htaken
    rw [hphase] at hrank
    intro hbefore
    rw [hbefore] at hrank
    exact absurd hrank (by decide)
  rw [out_from_closeTag htag hstarted hmore, List.append_nil, List.nil_append] at hall
  refine Decidable.byContradiction fun hbare => ?_
  have hlt := length_run_lt hmode hbare htaken
  rw [hall] at hlt
  exact Nat.lt_irrefl _ hlt

end Groundwork.Text.Document
