import Groundwork.Proofs.Result
import Groundwork.Template.Store

/-!
# Keys that are looked up in vain

Changing the first character of a value asks an object for its key `0`, and nothing else asks for a
key that may not be there. So a template that changes no first character never fails for a key, and
none of the templates in the catalogue does. A template that is there does not fail as one that is
missing either.
-/

namespace Groundwork.Template

/-- The failure that is not one of the template. -/
abbrev noKey : Fault := .misuse .noKeyZero

/-- Whether a filter changes the first character of a value. -/
def Filter.turns : Filter → Bool
  | lowerFirst | upperFirst => true
  | lower | slug | unknown _ => false

def Expr.turns : Expr → Bool
  | literal _ | name _ => false
  | member object _ => object.turns
  | equal l r | differ l r | within l r | both l r | either l r | joined l r => l.turns || r.turns
  | negate operand => operand.turns
  | filter f operand => f.turns || operand.turns

/-- Whether a template changes the first character of a value anywhere. -/
def turns : Template → Bool
  | done => false
  | text _ next => next.turns
  | value e next => e.turns || next.turns
  | branch test yes no next => test.turns || yes.turns || no.turns || next.turns
  | loop _ source body otherwise next =>
    source.turns || body.turns || otherwise.turns || next.turns

/-- A fault that values do not bring about: no template was found, or a key was not, though no first
character was to be changed. -/
def Fault.Foreign (fault : Fault) (turns : Bool) : Prop :=
  fault = noKey ∧ turns = false ∨ ∃ dir, fault = .notFound dir

variable {bindings : Bindings} {fault : Fault} {turned turned' : Bool}

theorem Fault.Foreign.or (h : fault.Foreign (turned || turned')) :
    fault.Foreign turned ∧ fault.Foreign turned' := by
  rcases h with ⟨hkey, hturns⟩ | hmissing
  · obtain ⟨hl, hr⟩ := Bool.or_eq_false_iff.1 hturns
    exact ⟨.inl ⟨hkey, hl⟩, .inl ⟨hkey, hr⟩⟩
  · exact ⟨.inr hmissing, .inr hmissing⟩

theorem Operand.member_ne (h : fault.Foreign turned) (o : Operand) (field : String) :
    o.member field ≠ .error fault := by
  rcases h with ⟨rfl, -⟩ | ⟨dir, rfl⟩
  all_goals
    unfold member
    split
    · simp
    · split <;> simp
    · simp

theorem Operand.items_ne (h : fault.Foreign turned) (o : Operand) : o.items ≠ .error fault := by
  rcases h with ⟨rfl, -⟩ | ⟨dir, rfl⟩
  all_goals
    cases o with
    | absent absence => simp [items]
    | value v => cases v <;> simp [items, Value.items]

theorem Operand.within_ne (h : fault.Foreign turned) (item container : Operand) :
    item.within container ≠ .error fault := by
  rcases h with ⟨rfl, -⟩ | ⟨dir, rfl⟩
  all_goals
    unfold within
    split
    · simp
    · split <;> simp
    · simp
    · split <;> simp
    · simp

theorem Filter.apply_ne {f : Filter} (h : fault.Foreign f.turns) (o : Operand) :
    f.apply o ≠ .error fault := by
  rcases h with ⟨rfl, hturns⟩ | ⟨dir, rfl⟩
  · cases f with
    | lowerFirst => cases hturns
    | upperFirst => cases hturns
    | lower => simp [apply]
    | unknown name => simp [apply]
    | slug =>
      cases o with
      | absent absence => simp [apply]
      | value v => cases v <;> simp [apply, Value.slug, Except.map]
  · -- what a value is misused for is never a template
    have hmisuse (r : Except Value.Misuse Value) :
        (r.mapError Fault.misuse).map Operand.value ≠ .error (.notFound dir) := by
      cases r <;> simp [Except.map]
    cases f <;> cases o <;> simp [apply, hmisuse]

theorem Expr.eval_ne {e : Expr} (h : fault.Foreign e.turns) : e.eval bindings ≠ .error fault := by
  induction e with
  | literal v => exact nofun
  | name n =>
    unfold eval
    split <;> exact nofun
  | member object field ih => exact bind_ne_error (ih h) fun o => o.member_ne h field
  | negate operand ih => exact bind_ne_error (ih h) fun _ => nofun
  | filter f operand ih =>
    obtain ⟨hf, ho⟩ := h.or
    exact bind_ne_error (ih ho) fun o => f.apply_ne hf o
  | equal l r ihl ihr | differ l r ihl ihr =>
    obtain ⟨hl, hr⟩ := h.or
    exact bind_ne_error (ihl hl) fun _ => bind_ne_error (ihr hr) fun _ => nofun
  | within l r ihl ihr =>
    obtain ⟨hl, hr⟩ := h.or
    exact bind_ne_error (ihl hl) fun item => bind_ne_error (ihr hr) fun container =>
      bind_ne_error (item.within_ne hl container) fun _ => nofun
  | both l r ihl ihr =>
    obtain ⟨hl, hr⟩ := h.or
    refine bind_ne_error (ihl hl) fun o => ?_
    split
    · exact ihr hr
    · exact nofun
  | either l r ihl ihr =>
    obtain ⟨hl, hr⟩ := h.or
    refine bind_ne_error (ihl hl) fun o => ?_
    split
    · exact nofun
    · exact ihr hr
  | joined l r ihl ihr =>
    obtain ⟨hl, hr⟩ := h.or
    exact bind_ne_error (ihl hl) fun o => bind_ne_error (ihr hr) fun _ =>
      bind_ne_error (o.items_ne hl) fun _ => nofun

theorem fill_ne {t : Template} {escaping : Escaping} (h : fault.Foreign t.turns) :
    t.fill escaping bindings ≠ .error fault := by
  induction t generalizing bindings with
  | done => exact nofun
  | text s next ih => exact bind_ne_error (ih h) fun _ => nofun
  | value e next ih =>
    obtain ⟨he, hnext⟩ := h.or
    exact bind_ne_error (Expr.eval_ne he) fun _ => bind_ne_error (ih hnext) fun _ => nofun
  | branch test yes no next ihyes ihno ihnext =>
    obtain ⟨h, hnext⟩ := h.or
    obtain ⟨h, hno⟩ := h.or
    obtain ⟨htest, hyes⟩ := h.or
    refine bind_ne_error (Expr.eval_ne htest) fun o => ?_
    dsimp only
    split
    · exact bind_ne_error (ihyes hyes) fun _ => bind_ne_error (ihnext hnext) fun _ => nofun
    · exact bind_ne_error (ihno hno) fun _ => bind_ne_error (ihnext hnext) fun _ => nofun
  | loop name source body otherwise next ihbody ihotherwise ihnext =>
    obtain ⟨h, hnext⟩ := h.or
    obtain ⟨h, hotherwise⟩ := h.or
    obtain ⟨hsource, hbody⟩ := h.or
    have hparts (items : List Value) : items.mapM (fun v =>
        fill escaping ((name, v) :: bindings) body) ≠ .error fault := by
      intro hfail
      obtain ⟨v, -, hv⟩ := mapM_error hfail
      exact ihbody hbody hv
    refine bind_ne_error (Expr.eval_ne hsource) fun o =>
      bind_ne_error (o.items_ne hsource) fun items => bind_ne_error (hparts items) fun _ => ?_
    dsimp only
    split
    · exact bind_ne_error (ihotherwise hotherwise) fun _ =>
        bind_ne_error (ihnext hnext) fun _ => nofun
    · exact bind_ne_error nofun fun _ => bind_ne_error (ihnext hnext) fun _ => nofun

theorem render_ne {t : Template} {escaping : Escaping} (h : fault.Foreign t.turns) :
    t.render escaping bindings ≠ .error fault := by
  unfold render
  split
  · rcases h with ⟨rfl, -⟩ | ⟨dir, rfl⟩ <;> exact nofun
  · exact fill_ne h

theorem catalogue_turns : ∀ entry ∈ Bundled.catalogue, entry.2.turns = false := by
  decide

/-- No template that comes with the library fails for a key. -/
theorem noKey_directory {store : Store} {t : Tree} {name : String} {template : Template}
    {escaping : Escaping} (hl : store.load t name = .ok template)
    (hr : template.render escaping bindings = .error noKey) : ∃ dir, store = .directory dir := by
  cases store with
  | directory dir => exact ⟨dir, rfl⟩
  | bundled =>
    unfold Store.load at hl
    dsimp only at hl
    split at hl
    · cases hl
    · split at hl
      · rename_i hlookup
        cases hl
        exact absurd hr (render_ne (.inl ⟨rfl, catalogue_turns _ (mem_of_lookup hlookup)⟩))
      · cases hl

end Groundwork.Template
