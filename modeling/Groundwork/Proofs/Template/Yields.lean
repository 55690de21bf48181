import Groundwork.Proofs.Template.Settle

/-!
# What a template comes to

Where the choices of a template depend on more than a few settled values, its text is put together
construct by construct: a choice comes to what is chosen, a repetition to what its rounds come to.
Settled stretches in between are taken as they are.
-/

namespace Groundwork.Template

/-- Nothing but this text is printed. -/
def Yields (t : Template) (b : Bindings) (cs : List Char) : Prop :=
  ∀ inks, t.print b = .ok inks → inks.map Ink.char = cs

variable {t last next yes no body : Template} {b known : Bindings} {cs cs' : List Char}
  {s name : String} {e : Expr} {o : Operand} {v : Value}

theorem chars_ofChars (own : Bool) (cs : List Char) : (Ink.ofChars own cs).map Ink.char = cs := by
  simp [Ink.ofChars, Function.comp_def]

theorem chars_ofText (own : Bool) (s : String) : (Ink.ofText own s).map Ink.char = s.toList :=
  chars_ofChars own s.toList

namespace Yields

theorem done : Yields done b [] := by
  intro inks h
  cases h
  rfl

theorem of_eq (h : Yields t b cs) (hcs : cs = cs') : Yields t b cs' :=
  hcs ▸ h

theorem text (h : Yields next b cs) : Yields (text s next) b (s.toList ++ cs) := by
  intro inks hprint
  obtain ⟨rest, hrest, rfl⟩ := print_text_ok hprint
  rw [List.map_append, chars_ofText, h rest hrest]

theorem value (he : e.eval b = .ok o) (h : Yields next b cs) :
    Yields (value e next) b (o.written.toList ++ cs) := by
  intro inks hprint
  obtain ⟨o', rest, ho', hrest, rfl⟩ := print_value_ok hprint
  obtain rfl := Except.ok.inj (he.symm.trans ho')
  rw [List.map_append, chars_ofText, h rest hrest]

/-- A choice by an operand that is known. -/
theorem branch (he : e.eval b = .ok o) (hyes : o.holds → Yields yes b cs)
    (hno : ¬ o.holds → Yields no b cs) (h : Yields next b cs') :
    Yields (branch e yes no next) b (cs ++ cs') := by
  intro inks hprint
  obtain ⟨o', ho', hprint⟩ := bind_ok hprint
  obtain rfl := Except.ok.inj (he.symm.trans ho')
  obtain ⟨chosen, hchosen, hprint⟩ := bind_ok hprint
  obtain ⟨rest, hrest, hprint⟩ := bind_ok hprint
  cases hprint
  rw [List.map_append, h rest hrest]
  congr 1
  split at hchosen
  · rename_i hholds
    exact hyes hholds chosen hchosen
  · rename_i hholds
    exact hno hholds chosen hchosen

/-- A choice between two texts. -/
theorem choose {cs₁ cs₂ : List Char} (he : e.eval b = .ok o) (hyes : Yields yes b cs₁)
    (hno : Yields no b cs₂) (h : Yields next b cs) :
    Yields (.branch e yes no next) b ((if o.holds then cs₁ else cs₂) ++ cs) := by
  refine .branch he (fun hholds => ?_) (fun hnot => ?_) h
  · rwa [if_pos hholds]
  · rwa [if_neg hnot]

theorem loop {α : Type} {as : List α} {k : α → Value} {g : α → List Char}
    (he : e.eval b = .ok o) (hitems : o.items = .ok (as.map k))
    (hbody : ∀ a ∈ as, Yields body ((name, k a) :: b) (g a)) (h : Yields next b cs) :
    Yields (loop name e body .done next) b (as.flatMap g ++ cs) := by
  intro inks hprint
  obtain ⟨rest, hrest, hchars⟩ := print_loop_chars hprint he hitems hbody
  rw [hchars, h rest hrest]

theorem followedBy (h : Yields t b cs) (h' : Yields last b cs') :
    Yields (t.followedBy last) b (cs ++ cs') := by
  intro inks hprint
  obtain ⟨front, back, hfront, hback, rfl⟩ := print_followedBy hprint
  rw [List.map_append, h front hfront, h' back hback]

end Yields

/-- The lines of a settled template that ends them all. -/
def settledLines (known : Bindings) (sp : Spelling t) : Option (List Shape) :=
  (settle known sp []).bind fun shape =>
    if shape.lines.getLast? = some [] then some shape.lines.dropLast else none

/-- A settled template comes to its lines. -/
theorem Yields.of_settledLines {sp : Spelling t} {ls : List Shape} (hk : Knows known b)
    (h : settledLines known sp = some ls) :
    Yields t b (Text.linesText (ls.map (Shape.line b))) := by
  intro inks hprint
  obtain ⟨shape, hshape, h⟩ := Option.bind_eq_some_iff.1 h
  split at h
  · rename_i hended
    cases h
    have hlines : shape.lines = shape.lines.dropLast ++ [[]] :=
      (List.dropLast_append_getLast? _ hended).symm
    have hchars := settle_chars hk sp hshape hprint
    rw [Shape.chars_nil, List.append_nil, Shape.chars_of_lines hlines] at hchars
    have htext : (fun l => (Shape.line b l).toList) = Shape.chars b :=
      funext fun l => String.toList_ofList
    rw [← hchars, Text.linesText, List.map_map]
    exact congrArg (fun f => Text.unlines (shape.lines.dropLast.map f)) htext.symm
  · cases h

end Groundwork.Template
