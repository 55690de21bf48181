import Groundwork.Proofs.Request

/-!
# One base package for a command

Whatever a search for the base package finds from one time to the next, and whatever happens in
between, a command asks once, when a package first needs the base, and then keeps to the answer.
The search is written down here, so that its answers can be counted.
-/

namespace Groundwork

namespace Package

variable {σ α β : Type} {find : StateM σ String} {needs more : Prop}

/-- A search that writes its answers down. -/
def recorded (find : StateM σ String) : StateM (σ × List String) String := fun (world, answers) =>
  let (answer, world') := find.run world
  (answer, world', answers ++ [answer])

/-- The package that an input stands for below a base package. -/
def below (base : String) (input : Option String) (usual : String) : String :=
  Id.run ((Fragment.ofInput input usual).complete (pure base))

/-- A package that is blank or has no point, so that it cannot do without a base package. -/
def Partial (input : Option String) : Prop :=
  '.' ∉ (Text.trim (input.getD "")).toList

theorem ofInput_of_partial {input : Option String} (h : Partial input) (usual : String) :
    ∃ name, Fragment.ofInput input usual = .segment name := by
  unfold Fragment.ofInput
  dsimp only
  split
  · exact ⟨_, rfl⟩
  · rw [if_neg (by simpa [Partial] using h)]
    exact ⟨_, rfl⟩

theorem ofInput_of_full {input : Option String} (h : ¬ Partial input) (usual : String) :
    Fragment.ofInput input usual = .full (Text.trim (input.getD "")) := by
  have hpoint : '.' ∈ (Text.trim (input.getD "")).toList := Decidable.not_not.1 h
  have hne : Text.trim (input.getD "") ≠ "" := by
    intro he
    rw [he] at hpoint
    cases hpoint
  unfold Fragment.ofInput
  rw [if_neg hne, if_pos (by simpa using hpoint)]

/-- A computation that gives `result base` and keeps `base`: the base that is kept already, or the
answer to the only question that it asks, if it needs one. -/
structure OneBase (find : StateM σ String)
    (x : StateT (Option String) (StateM (σ × List String)) α) (needs : Prop)
    (result : String → α) : Prop where
  kept : ∀ base world answers, (x.run (some base)).run (world, answers)
    = ((result base, some base), (world, answers))
  first : needs → ∀ world answers, (x.run none).run (world, answers)
    = ((result (find.run world).1, some (find.run world).1),
        ((find.run world).2, answers ++ [(find.run world).1]))
  unneeded : ¬ needs → ∀ base world answers, (x.run none).run (world, answers)
    = ((result base, none), (world, answers))

namespace OneBase

theorem pure (find : StateM σ String) (a : α) : OneBase find (Pure.pure a) False fun _ => a where
  kept _ _ _ := rfl
  first h := h.elim
  unneeded _ _ _ _ := rfl

theorem bind {x : StateT (Option String) (StateM (σ × List String)) α}
    {f : α → StateT (Option String) (StateM (σ × List String)) β} {result : String → α}
    {next : α → String → β} (hx : OneBase find x needs result)
    (hf : ∀ a, OneBase find (f a) more (next a)) :
    OneBase find (x >>= f) (needs ∨ more) fun base => next (result base) base where
  kept base world answers := by
    rw [StateT.run_bind, StateT.run_bind, hx.kept]
    exact (hf _).kept base world answers
  first h world answers := by
    rw [StateT.run_bind, StateT.run_bind]
    by_cases hneeds : needs
    · rw [hx.first hneeds]
      exact (hf _).kept _ _ _
    · rw [hx.unneeded hneeds (find.run world).1]
      exact (hf _).first (h.resolve_left hneeds) world answers
  unneeded h base world answers := by
    rw [not_or] at h
    rw [StateT.run_bind, StateT.run_bind, hx.unneeded h.1 base]
    exact (hf _).unneeded h.2 base world answers

theorem map {x : StateT (Option String) (StateM (σ × List String)) α} {result : String → α}
    (h : OneBase find x needs result) (f : α → β) :
    OneBase find (f <$> x) needs fun base => f (result base) where
  kept base world answers := by
    rw [StateT.run_map, StateT.run_map, h.kept]
    rfl
  first hneeds world answers := by
    rw [StateT.run_map, StateT.run_map, h.first hneeds]
    rfl
  unneeded hneeds base world answers := by
    rw [StateT.run_map, StateT.run_map, h.unneeded hneeds base]
    rfl

theorem congr {x : StateT (Option String) (StateM (σ × List String)) α}
    {result other : String → α} (h : OneBase find x needs result) (hneeds : needs ↔ more)
    (hresult : ∀ base, result base = other base) : OneBase find x more other := by
  obtain rfl : needs = more := propext hneeds
  obtain rfl : result = other := funext hresult
  exact h

end OneBase

theorem oneBase_base (find : StateM σ String) : OneBase find (base (recorded find)) True id where
  kept _ _ _ := rfl
  first _ _ _ := rfl
  unneeded h := absurd trivial h

theorem oneBase_resolve (find : StateM σ String) (input : Option String) (usual : String) :
    OneBase find (resolve (recorded find) input usual) (Partial input)
      (below · input usual) := by
  unfold resolve below
  by_cases hpartial : Partial input
  · obtain ⟨name, hname⟩ := ofInput_of_partial hpartial usual
    rw [hname]
    exact ((oneBase_base find).bind fun base => .pure find (base ++ "." ++ name)).congr
      (by simpa using hpartial) fun _ => rfl
  · rw [ofInput_of_full hpartial]
    exact (OneBase.pure find _).congr (by simpa using hpartial) fun _ => rfl

/-- What happens while a command runs: it asks for the base package or for a package, or something
changes from outside. -/
inductive Call (σ : Type) where
  | base
  | resolve (input : Option String) (usual : String)
  | outside (change : σ → σ)

namespace Call

def run (find : StateM (σ × List String) String) :
    Call σ → StateT (Option String) (StateM (σ × List String)) (Option String)
  | base => some <$> Package.base find
  | resolve input usual => some <$> Package.resolve find input usual
  | outside change => do
    StateT.lift (modify fun (world, answers) => (change world, answers))
    return none

/-- Whether the base package is needed. -/
def Needs : Call σ → Prop
  | base => True
  | resolve input _ => Partial input
  | outside _ => False

/-- What the call gives below a base package. -/
def result (base : String) : Call σ → Option String
  | .base => some base
  | .resolve input usual => some (below base input usual)
  | .outside _ => none

/-- What the call does to the world, questions aside. -/
def effect : Call σ → σ → σ
  | outside change => change
  | _ => id

/-- The world after some calls that ask nothing. -/
def effects (calls : List (Call σ)) (world : σ) : σ :=
  calls.foldl (fun world call => call.effect world) world

/-- The results of some calls, with what is kept afterwards, the world, and the answers. -/
def runAll (find : StateM σ String) (calls : List (Call σ)) (kept : Option String) (world : σ)
    (answers : List String) : (List (Option String) × Option String) × (σ × List String) :=
  ((calls.mapM (run (recorded find))).run kept).run (world, answers)

variable {call : Call σ} {calls before after : List (Call σ)} {world : σ} {answers : List String}

/-- One call, when the base package is known. -/
theorem run_kept (find : StateM σ String) (call : Call σ) (base : String) (world : σ)
    (answers : List String) :
    ((call.run (recorded find)).run (some base)).run (world, answers)
      = ((call.result base, some base), (call.effect world, answers)) := by
  cases call with
  | base => exact ((oneBase_base find).map some).kept base world answers
  | resolve input usual => exact ((oneBase_resolve find input usual).map some).kept base world answers
  | outside change => rfl

/-- One call that needs the base package, when it is not known. -/
theorem run_first (find : StateM σ String) (h : call.Needs) (world : σ) (answers : List String) :
    ((call.run (recorded find)).run none).run (world, answers)
      = ((call.result (find.run world).1, some (find.run world).1),
          ((find.run world).2, answers ++ [(find.run world).1])) := by
  cases call with
  | base => exact ((oneBase_base find).map some).first h world answers
  | resolve input usual => exact ((oneBase_resolve find input usual).map some).first h world answers
  | outside change => exact h.elim

/-- One call that does not need the base package, when it is not known. -/
theorem run_unneeded (find : StateM σ String) (h : ¬ call.Needs) (base : String) (world : σ)
    (answers : List String) :
    ((call.run (recorded find)).run none).run (world, answers)
      = ((call.result base, none), (call.effect world, answers)) := by
  cases call with
  | base => exact absurd trivial h
  | resolve input usual =>
    exact ((oneBase_resolve find input usual).map some).unneeded h base world answers
  | outside change => rfl

theorem runAll_cons (find : StateM σ String) (call : Call σ) (calls : List (Call σ))
    (kept : Option String) (world : σ) (answers : List String) :
    runAll find (call :: calls) kept world answers =
      let one := ((call.run (recorded find)).run kept).run (world, answers)
      let rest := runAll find calls one.1.2 one.2.1 one.2.2
      ((one.1.1 :: rest.1.1, rest.1.2), rest.2) := by
  rw [runAll, List.mapM_cons, StateT.run_bind, StateT.run_bind]
  rfl

/-- All calls, when the base package is known. -/
theorem runAll_kept (find : StateM σ String) (calls : List (Call σ)) (base : String) (world : σ)
    (answers : List String) : runAll find calls (some base) world answers
      = ((calls.map (result base), some base), (effects calls world, answers)) := by
  induction calls generalizing world with
  | nil => rfl
  | cons call rest ih =>
    rw [runAll_cons, run_kept]
    dsimp only
    rw [ih]
    rfl

/-- Calls that do not need the base package, then any others. -/
theorem runAll_append (find : StateM σ String) (h : ∀ c ∈ before, ¬ c.Needs) (base : String)
    (rest : List (Call σ)) (world : σ) (answers : List String) :
    runAll find (before ++ rest) none world answers =
      let later := runAll find rest none (effects before world) answers
      ((before.map (result base) ++ later.1.1, later.1.2), later.2) := by
  induction before generalizing world with
  | nil => rfl
  | cons call others ih =>
    rw [List.cons_append, runAll_cons, run_unneeded find (h call List.mem_cons_self) base]
    dsimp only
    rw [ih fun c hc => h c (List.mem_cons_of_mem call hc)]
    rfl

/-- The calls up to the first one that needs the base package. -/
theorem first_or_none (calls : List (Call σ)) : (∀ c ∈ calls, ¬ c.Needs) ∨
    ∃ before call after, calls = before ++ call :: after ∧ (∀ c ∈ before, ¬ c.Needs) ∧
      call.Needs := by
  induction calls with
  | nil => exact .inl (by simp)
  | cons call rest ih =>
    by_cases hcall : call.Needs
    · exact .inr ⟨[], call, rest, rfl, by simp, hcall⟩
    · rcases ih with hnone | ⟨before, first, after, rfl, hbefore, hfirst⟩
      · exact .inl (List.forall_mem_cons.2 ⟨hcall, hnone⟩)
      · exact .inr ⟨call :: before, first, after, rfl, List.forall_mem_cons.2 ⟨hcall, hbefore⟩,
          hfirst⟩

end Call

end Package

open Package

namespace Request

/-- The packages of a request, each with the usual segment. -/
def packages : Request → List (Option String × String)
  | model r => [(r.package, "model")]
  | controller r =>
    [(r.package, "controller"), (r.modelPackage, "model"), (r.servicePackage, "service")]
  | service r =>
    [(r.package, "service"), (r.modelPackage, "model"), (r.repositoryPackage, "repository")]
  | repository r => [(r.package, "repository"), (r.modelPackage, "model")]
  | security r => [(r.package, "security"), (r.userPackage, "model")]
  | project _ => []

/-- A blueprint needs the base package if one of its packages does. -/
theorem oneBase_blueprint {σ : Type} (find : StateM σ String) (request : Request) :
    OneBase find (request.blueprint (recorded find)) (∃ p ∈ request.packages, Partial p.1)
      (Request.below · request) := by
  have h := oneBase_resolve find
  cases request with
  | model r =>
    refine ((h _ _).bind fun _ => .pure find _).congr (by simp [packages]) fun base => ?_
    simp only [Request.below, Request.blueprint, ModelRequest.blueprint, resolve, Package.below]
    cases Fragment.ofInput r.package "model" <;> rfl
  | controller r =>
    refine ((h _ _).bind fun _ => (h _ _).bind fun _ => (h _ _).bind fun _ =>
      .pure find _).congr (by simp [packages]) fun base => ?_
    simp only [Request.below, Request.blueprint, ControllerRequest.blueprint, resolve,
      Package.below]
    cases Fragment.ofInput r.package "controller" <;>
      cases Fragment.ofInput r.modelPackage "model" <;>
      cases Fragment.ofInput r.servicePackage "service" <;> rfl
  | service r =>
    refine ((h _ _).bind fun _ => (h _ _).bind fun _ => (h _ _).bind fun _ =>
      .pure find _).congr (by simp [packages]) fun base => ?_
    simp only [Request.below, Request.blueprint, ServiceRequest.blueprint, resolve, Package.below]
    cases Fragment.ofInput r.package "service" <;>
      cases Fragment.ofInput r.modelPackage "model" <;>
      cases Fragment.ofInput r.repositoryPackage "repository" <;> rfl
  | repository r =>
    refine ((h _ _).bind fun _ => (h _ _).bind fun _ => .pure find _).congr (by simp [packages])
      fun base => ?_
    simp only [Request.below, Request.blueprint, RepositoryRequest.blueprint, resolve,
      Package.below]
    cases Fragment.ofInput r.package "repository" <;>
      cases Fragment.ofInput r.modelPackage "model" <;> rfl
  | security r =>
    refine ((h _ _).bind fun _ => (h _ _).bind fun _ => .pure find _).congr (by simp [packages])
      fun base => ?_
    simp only [Request.below, Request.blueprint, SecurityRequest.blueprint, resolve, Package.below]
    cases Fragment.ofInput r.package "security" <;>
      cases Fragment.ofInput r.userPackage "model" <;> rfl
  | project r => exact (OneBase.pure find _).congr (by simp [packages]) fun _ => rfl

end Request

/-- However often the base package or a package is asked for, and whatever changes in between, the
base is looked for once, when the first call needs it, and otherwise not at all. All results are
those below this one base. A package in full is taken as it is, without the blanks around it; and a
blueprint looks for the base if one of its packages is not in full. -/
theorem one_base_per_command {σ : Type} (find : StateM σ String) (world : σ) :
    (∀ calls : List (Call σ),
      ((∀ c ∈ calls, ¬ c.Needs) ∧ ∀ base, Call.runAll find calls none world []
        = ((calls.map (Call.result base), none), (Call.effects calls world, []))) ∨
      ∃ before call after base world', calls = before ++ call :: after ∧
        (∀ c ∈ before, ¬ c.Needs) ∧ call.Needs ∧
        find.run (Call.effects before world) = (base, world') ∧
        Call.runAll find calls none world []
          = ((calls.map (Call.result base), some base), (Call.effects after world', [base]))) ∧
    (∀ base input usual, ¬ Partial input → below base input usual = Text.trim (input.getD "")) ∧
    ∀ request : Request,
      ((∃ p ∈ request.packages, Partial p.1) →
        ((request.blueprint (recorded find)).run none).run (world, [])
          = ((request.below (find.run world).1, some (find.run world).1),
              ((find.run world).2, [(find.run world).1]))) ∧
      ((¬ ∃ p ∈ request.packages, Partial p.1) → ∀ base,
        ((request.blueprint (recorded find)).run none).run (world, [])
          = ((request.below base, none), (world, []))) := by
  refine ⟨fun calls => ?_, fun base input usual hfull => ?_, fun request => ⟨?_, ?_⟩⟩
  · rcases Call.first_or_none calls with hnone | ⟨before, call, after, rfl, hbefore, hcall⟩
    · refine .inl ⟨hnone, fun base => ?_⟩
      have hall := Call.runAll_append find hnone base [] world []
      rw [List.append_nil] at hall
      rw [hall]
      show ((_ ++ [], none), (_, [])) = _
      rw [List.append_nil]
    · refine .inr ⟨before, call, after, _, _, rfl, hbefore, hcall, rfl, ?_⟩
      rw [Call.runAll_append find hbefore (find.run (Call.effects before world)).1,
        Call.runAll_cons, Call.run_first find hcall]
      dsimp only
      rw [Call.runAll_kept, List.map_append, List.map_cons]
      rfl
  · rw [below, ofInput_of_full hfull]
    rfl
  · exact fun hneeds => (Request.oneBase_blueprint find request).first hneeds world []
  · exact fun hneeds base => (Request.oneBase_blueprint find request).unneeded hneeds base world []

end Groundwork
