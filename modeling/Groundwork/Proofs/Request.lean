import Groundwork.Proofs.Run
import Groundwork.Request.Blueprint
import Mathlib.Control.Traversable.Instances

/-!
# The blueprint of a request below a known base package

The base package is looked for while a blueprint is put together, so the blueprint comes out of a
run. Where the search leaves the tree alone, it is the blueprint that the found package gives
without any run.
-/

namespace Groundwork

open Run

variable {α β : Type} {t : Tree} {find : Run String} {base : String}

/-- The blueprint of a request below a base package. -/
def Request.below (base : String) (request : Request) : Blueprint :=
  Id.run ((request.blueprint (pure base)).run' none)

theorem Request.kind_below (base : String) (request : Request) :
    (request.below base).kind = request.kind := by
  cases request <;> rfl

/-- On the tree `t` the first computation rests with the result of the second, which needs no
site, and both keep the same base package. -/
def Follows (t : Tree) (x : StateT (Option String) Run α) (y : StateT (Option String) Id α) :
    Prop :=
  ∀ kept, RestsAt t (x.run kept) (Id.run (y.run kept))

theorem follows_pure (t : Tree) (a : α) : Follows t (pure a) (pure a) :=
  fun kept => rests_pure t (a, kept)

theorem Follows.bind {x : StateT (Option String) Run α} {y : StateT (Option String) Id α}
    {f : α → StateT (Option String) Run β} {g : α → StateT (Option String) Id β}
    (hx : Follows t x y) (hf : ∀ a, Follows t (f a) (g a)) : Follows t (x >>= f) (y >>= g) :=
  fun kept => (hx kept).bind (hf _ _)

theorem follows_base (hfind : RestsAt t find base) :
    Follows t (Package.base find) (Package.base (pure base)) := by
  intro kept
  cases kept with
  | some package => exact rests_pure t (package, some package)
  | none =>
    refine (hfind.bind (rests_pure t (base, none))).bind ?_
    exact rests_pure t (base, some base)

theorem follows_resolve (hfind : RestsAt t find base) (input : Option String) (usual : String) :
    Follows t (Package.resolve find input usual) (Package.resolve (pure base) input usual) := by
  unfold Package.resolve
  cases Package.Fragment.ofInput input usual with
  | full package => exact follows_pure t package
  | segment name => exact (follows_base hfind).bind fun b => follows_pure t (b ++ "." ++ name)

theorem follows_blueprint (hfind : RestsAt t find base) (request : Request) :
    Follows t (request.blueprint find) (request.blueprint (pure base)) := by
  have h := follows_resolve hfind
  cases request with
  | model r => exact (h _ _).bind fun _ => follows_pure t _
  | controller r =>
    refine (h _ _).bind fun _ => (h _ _).bind fun _ => (h _ _).bind fun _ => ?_
    exact follows_pure t _
  | service r =>
    refine (h _ _).bind fun _ => (h _ _).bind fun _ => (h _ _).bind fun _ => ?_
    exact follows_pure t _
  | repository r => exact (h _ _).bind fun _ => (h _ _).bind fun _ => follows_pure t _
  | security r => exact (h _ _).bind fun _ => (h _ _).bind fun _ => follows_pure t _
  | project r => exact follows_pure t r.blueprint

/-- Where the search for the base package rests, so does the blueprint. -/
theorem rests_blueprint (hfind : RestsAt t find base) (request : Request) :
    RestsAt t ((request.blueprint find).run' none) (request.below base) :=
  (follows_blueprint hfind request none).bind (rests_pure t _)

end Groundwork
