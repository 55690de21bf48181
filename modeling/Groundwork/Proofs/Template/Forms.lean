import Groundwork.Proofs.Result
import Groundwork.Template.Store

/-!
# Templates that cannot fail

Filling a template in asks three things of the values: a member is asked of a value that is there, a
repetition and a search are over something with items, and a filter takes the value it is given. A
form says which of these a value allows. A template whose expressions keep to the forms of the names
it uses gives a text for all bindings that have these forms.
-/

namespace Groundwork

namespace Template

/-- What may be done with a value. Nothing but writing, comparing and testing is allowed for `any`
value; the members of a record that are listed have items. -/
inductive Form where
  | any
  | items (item : Form)
  | record (withItems : List String)

namespace Operand

/-- Whether something can be repeated over. What is absent can: there is nothing to repeat. -/
def Iterable (o : Operand) : Prop :=
  ∃ vs, o.items = .ok vs

theorem within_text {o : Operand} (h : o.Iterable) (s : String) :
    ∃ b, (value (.text s)).within o = .ok b := by
  obtain ⟨vs, hvs⟩ := h
  cases o with
  | absent absence => exact ⟨false, rfl⟩
  | value v =>
    cases v with
    | text whole => exact ⟨_, rfl⟩
    | list items => exact ⟨_, rfl⟩
    | object entries => exact ⟨_, rfl⟩
    | null => cases hvs
    | bool b => cases hvs
    | int n => cases hvs
    | float x => cases hvs

end Operand

namespace Form

def Has : Form → Operand → Prop
  | any, _ => True
  | items item, o => ∃ vs, o.items = .ok vs ∧ ∀ v ∈ vs, item.Has (.value v)
  | record withItems, o => ∃ v, o = .value v ∧
      ∀ field ∈ withItems, ∀ m, o.member field = .ok m → m.Iterable

/-- The form of a member, if the form of its owner allows to ask for members. -/
def member? (form : Form) (field : String) : Option Form :=
  match form with
  | record withItems => some (if field ∈ withItems then .items .any else .any)
  | any | items _ => none

def item? : Form → Option Form
  | items item => some item
  | any | record _ => none

variable {form item : Form} {o : Operand}

theorem has_member {field : String} {f : Form} (hf : form.member? field = some f)
    (ho : form.Has o) : ∃ m, o.member field = .ok m ∧ f.Has m := by
  cases form with
  | any => cases hf
  | items item => cases hf
  | record withItems =>
    cases hf
    obtain ⟨v, rfl, hitems⟩ := ho
    have hm : ∃ m, (Operand.value v).member field = .ok m := by
      unfold Operand.member
      split
      · rename_i heq
        cases heq
      · split <;> exact ⟨_, rfl⟩
      · exact ⟨_, rfl⟩
    obtain ⟨m, hm⟩ := hm
    refine ⟨m, hm, ?_⟩
    split
    · rename_i hfield
      obtain ⟨vs, hvs⟩ := hitems field hfield m hm
      exact ⟨vs, hvs, fun _ _ => trivial⟩
    · trivial

theorem has_items (hi : form.item? = some item) (ho : form.Has o) :
    ∃ vs, o.items = .ok vs ∧ ∀ v ∈ vs, item.Has (.value v) := by
  cases form with
  | any => cases hi
  | record withItems => cases hi
  | items item' =>
    cases hi
    exact ho

/-- A record is there, whatever its members are. -/
theorem has_record_nil (v : Value) : (record []).Has (.value v) :=
  ⟨v, rfl, nofun⟩

theorem has_list {vs : List Value} (h : ∀ v ∈ vs, item.Has (.value v)) :
    (items item).Has (.value (.list vs)) :=
  ⟨vs, rfl, h⟩

end Form

/-- The forms of names. A name that is not listed may have any value, or none. -/
abbrev Forms := List (String × Form)

namespace Expr

/-- Whether an expression is a text that is written out. -/
def isText : Expr → Bool
  | literal (.text _) => true
  | _ => false

/-- The form of an expression that keeps to the forms of its names. -/
def form? (forms : Forms) : Expr → Option Form
  | literal _ => some .any
  | name n => some ((forms.lookup n).getD .any)
  | member object field => (object.form? forms).bind (·.member? field)
  | equal l r | differ l r | both l r | either l r =>
    (l.form? forms).bind fun _ => (r.form? forms).map fun _ => .any
  | within item container =>
    if item.isText then ((container.form? forms).bind Form.item?).map fun _ => .any else none
  | negate operand => (operand.form? forms).map fun _ => .any
  | filter .lower operand => (operand.form? forms).map fun _ => .any
  | filter _ _ => none
  | joined operand separator =>
    ((operand.form? forms).bind Form.item?).bind fun _ =>
      (separator.form? forms).map fun _ => .any

end Expr

/-- Whether a template keeps to the forms of its names, inside repetitions to the form of the items
as well. -/
def keeps (forms : Forms) : Template → Bool
  | done => true
  | text _ next => next.keeps forms
  | value e next => (e.form? forms).isSome && next.keeps forms
  | branch test yes no next =>
    (test.form? forms).isSome && (yes.keeps forms && (no.keeps forms && next.keeps forms))
  | loop name source body otherwise next =>
    (match (source.form? forms).bind Form.item? with
      | some item => body.keeps ((name, item) :: forms)
      | none => false)
      && (otherwise.keeps forms && next.keeps forms)

/-- The bindings have the forms that are listed. -/
def Fit (forms : Forms) (bindings : Bindings) : Prop :=
  ∀ n form, forms.lookup n = some form → ∃ v, bindings.find? n = some v ∧ form.Has (.value v)

variable {forms : Forms} {bindings : Bindings} {form : Form}

theorem Fit.cons {name : String} {v : Value} (h : Fit forms bindings) (hv : form.Has (.value v)) :
    Fit ((name, form) :: forms) ((name, v) :: bindings) := by
  intro n form' hl
  unfold Bindings.find?
  rw [List.lookup_cons] at hl ⊢
  cases hn : n == name with
  | true =>
    rw [hn] at hl
    cases hl
    exact ⟨v, rfl, hv⟩
  | false =>
    rw [hn] at hl
    exact h n form' hl

theorem Expr.eval_text {e : Expr} (bindings : Bindings) (h : e.isText) :
    ∃ s, e.eval bindings = .ok (.value (.text s)) := by
  unfold isText at h
  split at h
  · rename_i s
    exact ⟨s, rfl⟩
  · cases h

/-- An expression that keeps to the forms has a value, and of the form that was foreseen. -/
theorem Expr.eval_form {e : Expr} (hfit : Fit forms bindings) (h : e.form? forms = some form) :
    ∃ o, e.eval bindings = .ok o ∧ form.Has o := by
  induction e generalizing form with
  | literal v =>
    cases h
    exact ⟨_, rfl, trivial⟩
  | name n =>
    cases h
    cases hl : forms.lookup n with
    | none =>
      cases hv : bindings.find? n with
      | none => exact ⟨_, by rw [eval, hv], trivial⟩
      | some v => exact ⟨_, by rw [eval, hv], trivial⟩
    | some form' =>
      obtain ⟨v, hv, hhas⟩ := hfit n form' hl
      exact ⟨_, by rw [eval, hv], hhas⟩
  | member object field ih =>
    obtain ⟨owner, howner, hfield⟩ := Option.bind_eq_some_iff.1 h
    obtain ⟨o, ho, hhas⟩ := ih howner
    obtain ⟨m, hm, hm'⟩ := Form.has_member hfield hhas
    exact ⟨m, by rw [eval, ho]; exact hm, hm'⟩
  | equal l r ihl ihr | differ l r ihl ihr =>
    obtain ⟨_, hl, h⟩ := Option.bind_eq_some_iff.1 h
    obtain ⟨_, hr, rfl⟩ := Option.map_eq_some_iff.1 h
    obtain ⟨o, ho, -⟩ := ihl hl
    obtain ⟨o', ho', -⟩ := ihr hr
    exact ⟨_, by rw [eval, ho, ho']; rfl, trivial⟩
  | both l r ihl ihr =>
    obtain ⟨_, hl, h⟩ := Option.bind_eq_some_iff.1 h
    obtain ⟨_, hr, rfl⟩ := Option.map_eq_some_iff.1 h
    obtain ⟨o, ho, -⟩ := ihl hl
    obtain ⟨o', ho', -⟩ := ihr hr
    refine ⟨if o.holds then o' else o, ?_, trivial⟩
    rw [eval, ho, ho']
    exact (apply_ite Except.ok _ _ _).symm
  | either l r ihl ihr =>
    obtain ⟨_, hl, h⟩ := Option.bind_eq_some_iff.1 h
    obtain ⟨_, hr, rfl⟩ := Option.map_eq_some_iff.1 h
    obtain ⟨o, ho, -⟩ := ihl hl
    obtain ⟨o', ho', -⟩ := ihr hr
    refine ⟨if o.holds then o else o', ?_, trivial⟩
    rw [eval, ho, ho']
    exact (apply_ite Except.ok _ _ _).symm
  | within item container _ ihc =>
    unfold form? at h
    split at h
    · rename_i htext
      obtain ⟨_, hcontainer, rfl⟩ := Option.map_eq_some_iff.1 h
      obtain ⟨_, hc, hitem⟩ := Option.bind_eq_some_iff.1 hcontainer
      obtain ⟨s, hs⟩ := eval_text bindings htext
      obtain ⟨o, ho, hhas⟩ := ihc hc
      obtain ⟨vs, hvs, -⟩ := Form.has_items hitem hhas
      obtain ⟨b, hb⟩ := Operand.within_text ⟨vs, hvs⟩ s
      refine ⟨.value (.bool b), ?_, trivial⟩
      rw [eval, hs, ho]
      simp only [bind, Except.bind, hb]
    · cases h
  | negate operand ih =>
    obtain ⟨_, ho, rfl⟩ := Option.map_eq_some_iff.1 h
    obtain ⟨o, ho, -⟩ := ih ho
    exact ⟨_, by rw [eval, ho]; rfl, trivial⟩
  | filter f operand ih =>
    cases f with
    | lower =>
      obtain ⟨_, ho, rfl⟩ := Option.map_eq_some_iff.1 h
      obtain ⟨o, ho, -⟩ := ih ho
      exact ⟨_, by rw [eval, ho]; rfl, trivial⟩
    | lowerFirst => cases h
    | upperFirst => cases h
    | slug => cases h
    | unknown missing => cases h
  | joined operand separator iho ihs =>
    obtain ⟨item, hoperand, hseparator⟩ := Option.bind_eq_some_iff.1 h
    obtain ⟨_, ho, hitem⟩ := Option.bind_eq_some_iff.1 hoperand
    obtain ⟨_, hs, rfl⟩ := Option.map_eq_some_iff.1 hseparator
    obtain ⟨o, ho, hhas⟩ := iho ho
    obtain ⟨s, hs, -⟩ := ihs hs
    obtain ⟨vs, hvs, -⟩ := Form.has_items hitem hhas
    refine ⟨.value (.text (s.written.intercalate (vs.map Value.written))), ?_, trivial⟩
    rw [eval, ho, hs]
    simp only [bind, Except.bind, hvs]

/-- A filter that does not exist has no form. -/
theorem Expr.unknownFilter?_of_form {e : Expr} (h : e.form? forms = some form) :
    e.unknownFilter? = none := by
  induction e generalizing form with
  | literal v => rfl
  | name n => rfl
  | member object field ih =>
    obtain ⟨_, ho, -⟩ := Option.bind_eq_some_iff.1 h
    exact ih ho
  | equal l r ihl ihr | differ l r ihl ihr | both l r ihl ihr | either l r ihl ihr =>
    obtain ⟨_, hl, h⟩ := Option.bind_eq_some_iff.1 h
    obtain ⟨_, hr, -⟩ := Option.map_eq_some_iff.1 h
    rw [unknownFilter?, ihl hl, ihr hr]
    rfl
  | within item container _ ihc =>
    unfold form? at h
    split at h
    · rename_i htext
      obtain ⟨_, h, -⟩ := Option.map_eq_some_iff.1 h
      obtain ⟨_, hc, -⟩ := Option.bind_eq_some_iff.1 h
      unfold isText at htext
      split at htext
      · exact ihc hc
      · cases htext
    · cases h
  | negate operand ih =>
    obtain ⟨_, ho, -⟩ := Option.map_eq_some_iff.1 h
    exact ih ho
  | filter f operand ih =>
    cases f with
    | lower =>
      obtain ⟨_, ho, -⟩ := Option.map_eq_some_iff.1 h
      exact ih ho
    | lowerFirst => cases h
    | upperFirst => cases h
    | slug => cases h
    | unknown missing => cases h
  | joined operand separator iho ihs =>
    obtain ⟨_, h, hs⟩ := Option.bind_eq_some_iff.1 h
    obtain ⟨_, ho, -⟩ := Option.bind_eq_some_iff.1 h
    obtain ⟨_, hs, -⟩ := Option.map_eq_some_iff.1 hs
    rw [unknownFilter?, iho ho, ihs hs]
    rfl

theorem keeps_loop {name : String} {source : Expr} {body otherwise next : Template}
    (h : (loop name source body otherwise next).keeps forms) :
    ∃ form item, source.form? forms = some form ∧ form.item? = some item ∧
      body.keeps ((name, item) :: forms) ∧ otherwise.keeps forms ∧ next.keeps forms := by
  rw [keeps, Bool.and_eq_true, Bool.and_eq_true] at h
  obtain ⟨hbody, hotherwise, hnext⟩ := h
  split at hbody
  · rename_i item hitem
    obtain ⟨form, hform, hitem⟩ := Option.bind_eq_some_iff.1 hitem
    exact ⟨form, item, hform, hitem, hbody, hotherwise, hnext⟩
  · cases hbody

theorem unknownFilter?_of_keeps {t : Template} (h : t.keeps forms) (late : Bool) :
    t.unknownFilter? late = none := by
  induction t generalizing forms late with
  | done => rfl
  | text s next ih => exact ih h late
  | value e next ih =>
    obtain ⟨he, hnext⟩ := Bool.and_eq_true_iff.1 h
    obtain ⟨form, he⟩ := Option.isSome_iff_exists.1 he
    rw [unknownFilter?, Expr.unknownFilter?_of_form he, ite_self, ih hnext]
    rfl
  | branch test yes no next ihyes ihno ihnext =>
    simp only [keeps, Bool.and_eq_true] at h
    obtain ⟨-, hyes, hno, hnext⟩ := h
    rw [unknownFilter?, ihyes hyes, ihno hno, ihnext hnext]
    rfl
  | loop name source body otherwise next ihbody ihotherwise ihnext =>
    obtain ⟨form, item, hsource, -, hbody, hotherwise, hnext⟩ := keeps_loop h
    rw [unknownFilter?, Expr.unknownFilter?_of_form hsource, ite_self, ihbody hbody,
      ihotherwise hotherwise, ihnext hnext]
    rfl

/-- A template that keeps to the forms of its bindings is filled in, escaped or not. -/
theorem fill_of_keeps {t : Template} (escaping : Escaping) (hfit : Fit forms bindings)
    (h : t.keeps forms) : ∃ text, t.fill escaping bindings = .ok text := by
  induction t generalizing forms bindings with
  | done => exact ⟨"", rfl⟩
  | text s next ih =>
    obtain ⟨rest, hrest⟩ := ih hfit h
    exact ⟨s ++ rest, by rw [fill, hrest]; rfl⟩
  | value e next ih =>
    obtain ⟨he, hnext⟩ := Bool.and_eq_true_iff.1 h
    obtain ⟨form, he⟩ := Option.isSome_iff_exists.1 he
    obtain ⟨o, ho, -⟩ := Expr.eval_form hfit he
    obtain ⟨rest, hrest⟩ := ih hfit hnext
    exact ⟨_, by rw [fill, ho, hrest]; rfl⟩
  | branch test yes no next ihyes ihno ihnext =>
    simp only [keeps, Bool.and_eq_true] at h
    obtain ⟨htest, hyes, hno, hnext⟩ := h
    obtain ⟨form, htest⟩ := Option.isSome_iff_exists.1 htest
    obtain ⟨o, ho, -⟩ := Expr.eval_form hfit htest
    obtain ⟨chosen, hchosen⟩ := ihyes hfit hyes
    obtain ⟨chosen', hchosen'⟩ := ihno hfit hno
    obtain ⟨rest, hrest⟩ := ihnext hfit hnext
    refine ⟨if o.holds then chosen ++ rest else chosen' ++ rest, ?_⟩
    rw [fill, ho, hchosen, hchosen', hrest]
    exact (apply_ite Except.ok _ _ _).symm
  | loop name source body otherwise next ihbody ihotherwise ihnext =>
    obtain ⟨form, item, hsource, hitem, hbody, hotherwise, hnext⟩ := keeps_loop h
    obtain ⟨o, ho, hhas⟩ := Expr.eval_form hfit hsource
    obtain ⟨vs, hvs, hitems⟩ := Form.has_items hitem hhas
    -- every item has the form that the body was checked for
    obtain ⟨parts, hparts⟩ : ∃ parts,
        (vs.mapM fun v => fill escaping ((name, v) :: bindings) body) = .ok parts :=
      mapM_ok_iff.2 fun v hv => ihbody (hfit.cons (hitems v hv)) hbody
    obtain ⟨instead, hinstead⟩ := ihotherwise hfit hotherwise
    obtain ⟨rest, hrest⟩ := ihnext hfit hnext
    refine ⟨if vs.isEmpty then String.join parts ++ instead ++ rest
      else String.join parts ++ "" ++ rest, ?_⟩
    rw [fill, ho]
    simp only [bind, Except.bind, hvs, hparts, hinstead, hrest]
    exact (apply_ite Except.ok _ _ _).symm

theorem render_of_keeps {t : Template} (escaping : Escaping) (hfit : Fit forms bindings)
    (h : t.keeps forms) : ∃ text, t.render escaping bindings = .ok text := by
  rw [render, unknownFilter?_of_keeps h false]
  exact fill_of_keeps escaping hfit h

end Template

end Groundwork
