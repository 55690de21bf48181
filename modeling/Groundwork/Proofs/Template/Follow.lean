import Groundwork.Proofs.Origin
import Groundwork.Proofs.Template.Scan

/-!
# Following a template

A follower goes along with a template. It reads the template's own texts and passes over the values,
which must be members of some named ones. Choices have to lead it to one state, and a repetition has
to leave it where it was, so it goes through the template once for all values. What a follower knows
in its states of all that was printed, it then knows of every print of the template, as long as the
named values lack the marks that would deceive it.
-/

namespace Groundwork.Template

/-- The expression stands for one of the named values, or for a member of one. -/
def Expr.belongs (names : List String) : Expr → Bool
  | name n => names.contains n
  | member object _ => object.belongs names
  | _ => false

def Operand.Lacks (marks : List Char) : Operand → Prop
  | value v => v.Lacks marks
  | absent _ => True

/-- The named values lack some marks. -/
def Lacking (marks : List Char) (names : List String) (b : Bindings) : Prop :=
  ∀ n ∈ names, ∀ v, b.find? n = some v → v.Lacks marks

structure Follower (σ : Type) where
  /-- The state after own text. -/
  read : σ → List Char → Option σ
  /-- The state after a value. -/
  pass : σ → Option σ

namespace Follower

variable {σ : Type} [DecidableEq σ]

/-- The state after a template, whose values belong to the named ones. -/
def follow (f : Follower σ) (names : List String) {t : Template} : Spelling t → σ → Option σ
  | .done, q => some q
  | .text cs rest, q => (f.read q cs).bind (follow f names rest)
  | .value e rest, q => if e.belongs names then (f.pass q).bind (follow f names rest) else none
  | .branch _ yes no rest, q =>
    (follow f names yes q).bind fun chosen =>
      if follow f names no q = some chosen then follow f names rest chosen else none
  | .loop name source round instead rest, q =>
    if source.belongs names && follow f (name :: names) round q = some q
        && follow f names instead q = some q then
      follow f names rest q
    else none

/-- What is known in the states of a follower of all that was printed, and stays known. -/
structure Knows (f : Follower σ) (marks : List Char) (known : σ → List Ink → Prop) : Prop where
  read : ∀ {q q' inks cs}, f.read q cs = some q' → known q inks →
    known q' (inks ++ Ink.ofChars true cs)
  pass : ∀ {q q' inks} {v : Value}, f.pass q = some q' → v.Lacks marks → known q inks →
    known q' (inks ++ Ink.ofText false v.written)

end Follower

variable {marks : List Char} {names : List String} {b : Bindings} {e : Expr} {o : Operand}
  {t : Template} {inks front : List Ink}

theorem Operand.Lacks.member {m : Operand} {field : String} (h : o.Lacks marks)
    (hm : o.member field = .ok m) : m.Lacks marks := by
  cases o with
  | absent absence => cases hm
  | value v =>
    cases v with
    | object entries =>
      rw [Operand.member] at hm
      split at hm
      · rename_i w hw
        cases hm
        exact Value.Lacks.entry h hw
      · cases hm
        trivial
    | null | bool _ | int _ | float _ | text _ | list _ =>
      cases hm
      trivial

theorem Operand.Lacks.item {items : List Value} {v : Value} (h : o.Lacks marks)
    (hitems : o.items = .ok items) (hv : v ∈ items) : v.Lacks marks := by
  cases o with
  | absent absence =>
    cases hitems
    cases hv
  | value w =>
    rw [Operand.items] at hitems
    cases hw : w.items with
    | error misuse =>
      rw [hw] at hitems
      cases hitems
    | ok items' =>
      rw [hw] at hitems
      cases hitems
      exact Value.Lacks.item h hw hv

/-- What is written for something absent lacks everything, as the empty text does. -/
theorem Operand.Lacks.written (h : o.Lacks marks) :
    ∃ v : Value, v.Lacks marks ∧ o.written = v.written := by
  cases o with
  | value v => exact ⟨v, h, rfl⟩
  | absent absence =>
    refine ⟨.text "", Value.lacks_text fun m _ hm => ?_, rfl⟩
    cases hm

/-- Members of named values lack what the values lack. -/
theorem Expr.lacks_eval (hb : Lacking marks names b) (he : e.belongs names)
    (ho : e.eval b = .ok o) : o.Lacks marks := by
  induction e generalizing o with
  | name n =>
    rw [eval] at ho
    cases hfind : b.find? n with
    | none =>
      rw [hfind] at ho
      cases ho
      trivial
    | some v =>
      rw [hfind] at ho
      cases ho
      exact hb n (List.contains_iff_mem.1 he) v hfind
  | member object field ih =>
    obtain ⟨whole, hwhole, hm⟩ := bind_ok ho
    exact (ih he hwhole).member hm
  | _ => cases he

theorem Lacking.cons {name : String} {v : Value} (hb : Lacking marks names b)
    (hv : v.Lacks marks) : Lacking marks (name :: names) ((name, v) :: b) := by
  intro n hn w hw
  by_cases hname : n = name
  · subst hname
    have hfind : Bindings.find? ((n, v) :: b) n = some v := List.lookup_cons_self
    rw [hfind] at hw
    cases hw
    exact hv
  · have hne : (n == name) = false := by simpa using hname
    have hfind : Bindings.find? ((name, v) :: b) n = b.find? n := by
      show List.lookup n ((name, v) :: b) = List.lookup n b
      rw [List.lookup_cons, hne]
    rw [hfind] at hw
    exact hb n ((List.mem_cons.1 hn).resolve_left hname) w hw

namespace Follower

variable {σ : Type} [DecidableEq σ] {f : Follower σ} {known : σ → List Ink → Prop} {q q' : σ}

/-- A follower knows of what is printed what it knows in the state that it comes to. -/
theorem Knows.print (hk : f.Knows marks known) {sp : Spelling t}
    (hf : f.follow names sp q = some q') (hb : Lacking marks names b)
    (hprint : t.print b = .ok inks) (h : known q front) : known q' (front ++ inks) := by
  induction sp generalizing names b q q' inks front with
  | done =>
    cases hf
    cases hprint
    rwa [List.append_nil]
  | text cs rest ih =>
    obtain ⟨mid, hread, hf⟩ := Option.bind_eq_some_iff.1 hf
    obtain ⟨inks', hrest, rfl⟩ := print_text_ok hprint
    rw [← List.append_assoc, Ink.ofText, String.toList_ofList]
    exact ih hf hb hrest (hk.read hread h)
  | value e rest ih =>
    rw [follow] at hf
    split at hf
    · rename_i he
      obtain ⟨mid, hpass, hf⟩ := Option.bind_eq_some_iff.1 hf
      obtain ⟨o, inks', ho, hrest, rfl⟩ := print_value_ok hprint
      obtain ⟨v, hv, hwritten⟩ := (Expr.lacks_eval hb he ho).written
      rw [← List.append_assoc, hwritten]
      exact ih hf hb hrest (hk.pass hpass hv h)
    · cases hf
  | branch test yes no rest ihyes ihno ih =>
    obtain ⟨chosen, hyes, hf⟩ := Option.bind_eq_some_iff.1 hf
    split at hf
    · rename_i hno
      obtain ⟨taken, inks', htaken, hrest, rfl⟩ := print_branch_ok hprint
      rw [← List.append_assoc]
      refine ih hf hb hrest ?_
      rcases htaken with ht | ht
      · exact ihyes hyes hb ht h
      · exact ihno hno hb ht h
    · cases hf
  | @loop name source body otherwise next round instead rest ihbody ihotherwise ih =>
    rw [follow] at hf
    split at hf
    · rename_i hkept
      simp only [Bool.and_eq_true, decide_eq_true_eq] at hkept
      obtain ⟨⟨hsource, hround⟩, hinstead⟩ := hkept
      obtain ⟨o, items, parts, other, inks', ho, hitems, hparts, hother, hrest, rfl⟩ :=
        print_loop_ok hprint
      have hitem (v : Value) (hv : v ∈ items) : Lacking marks (name :: names) ((name, v) :: b) :=
        hb.cons ((Expr.lacks_eval hb hsource ho).item hitems hv)
      -- every round leads from the state to itself
      have hrounds : ∀ (parts : List (List Ink)) (front : List Ink),
          (∀ part ∈ parts, ∃ v ∈ items, body.print ((name, v) :: b) = .ok part) →
          known q front → known q (front ++ parts.flatten) := by
        intro parts
        induction parts with
        | nil =>
          intro front _ hfront
          rwa [List.flatten_nil, List.append_nil]
        | cons part more ihparts =>
          intro front hprints hfront
          obtain ⟨v, hv, hpart⟩ := hprints part List.mem_cons_self
          rw [List.flatten_cons, ← List.append_assoc]
          exact ihparts _ (fun p hp => hprints p (List.mem_cons_of_mem part hp))
            (ihbody hround (hitem v hv) hpart hfront)
      have hloop := hrounds parts front hparts h
      rw [← List.append_assoc, ← List.append_assoc]
      refine ih hf hb hrest ?_
      rcases hother with rfl | hother
      · rwa [List.append_nil]
      · exact ihotherwise hinstead hb hother hloop
    · cases hf

end Follower

end Groundwork.Template
