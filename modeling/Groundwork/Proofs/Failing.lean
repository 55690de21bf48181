import Groundwork.Proofs.Run

/-!
# How a run fails

A chain of runs fails in the first one that fails, after all before it have succeeded, and leaves
the site that this one leaves. So what the failures of the parts have in common, the failures of
the whole have in common too.
-/

namespace Groundwork.Run

variable {α β γ : Type} {site site' : Site} {e : Failure}

theorem on_bind_error {x : Run α} {f : α → Run β} :
    on site (x >>= f) = (.error e, site') ↔ on site x = (.error e, site') ∨
      ∃ a mid, on site x = (.ok a, mid) ∧ on mid (f a) = (.error e, site') := by
  rw [on_bind]
  rcases on site x with ⟨e' | a, mid⟩
  · simp
  · constructor
    · intro h
      exact .inr ⟨a, mid, rfl, h⟩
    · rintro (h | ⟨a', mid', h, h'⟩)
      · cases h
      · cases h
        exact h'

/-- A run over a list fails at one of its elements, after the run over those before it. -/
theorem on_mapM_error {f : γ → Run α} {cs : List γ}
    (h : on site (cs.mapM f) = (.error e, site')) :
    ∃ done c rest as mid, cs = done ++ c :: rest ∧ on site (done.mapM f) = (.ok as, mid) ∧
      on mid (f c) = (.error e, site') := by
  induction cs generalizing site with
  | nil => cases h
  | cons c rest ih =>
    rw [List.mapM_cons] at h
    rcases on_bind_error.1 h with h | ⟨a, mid, hc, h⟩
    · exact ⟨[], c, rest, [], site, rfl, rfl, h⟩
    · rcases on_bind_error.1 h with h | ⟨as, mid', -, h⟩
      · obtain ⟨done, c', rest', as, mid', rfl, hdone, hfail⟩ := ih h
        refine ⟨c :: done, c', rest', a :: as, mid', rfl, ?_, hfail⟩
        rw [List.mapM_cons]
        exact on_bind_ok.2 ⟨a, mid, hc, on_bind_ok.2 ⟨as, mid', hdone, rfl⟩⟩
      · cases h

/-- The failure that the run ends with at a site, if it fails there. -/
def failure? (site : Site) (run : Run α) : Option Failure :=
  match (on site run).1 with
  | .error e => some e
  | .ok _ => none

theorem failure?_eq_some {run : Run α} :
    failure? site run = some e ↔ ∃ site', on site run = (.error e, site') := by
  unfold failure?
  rcases on site run with ⟨e' | a, site'⟩
  · constructor
    · intro h
      exact ⟨site', by rw [Option.some.inj h]⟩
    · rintro ⟨_, h⟩
      cases h
      rfl
  · constructor
    · intro h
      cases h
    · rintro ⟨_, h⟩
      cases h

/-- Every failure of the run is to blame on the tree that it leaves. -/
def FailsBy (blame : Tree → Failure → Prop) (run : Run α) : Prop :=
  ∀ ⦃site f site'⦄, on site run = (.error f, site') → blame site'.tree f

variable {blame more : Tree → Failure → Prop}

theorem FailsBy.mono {run : Run α} (h : FailsBy blame run)
    (himp : ∀ t f, blame t f → more t f) : FailsBy more run :=
  fun _ _ _ hon => himp _ _ (h hon)

theorem failsBy_pure (a : α) : FailsBy blame (pure a : Run α) := by
  intro site f site' h
  cases h

theorem failsBy_notifyAll (ns : List Notice) : FailsBy blame (notifyAll ns) := by
  intro site f site' h
  cases h

theorem failsBy_throw {f : Failure} (h : ∀ t, blame t f) : FailsBy blame (throw f : Run α) := by
  intro site f' site' hon
  cases hon
  exact h site.tree

theorem failsBy_ofExcept {r : Except Failure α} (h : ∀ f, r = .error f → ∀ t, blame t f) :
    FailsBy blame (ofExcept r) := by
  intro site f site' hon
  rw [on_ofExcept] at hon
  obtain ⟨hr, rfl⟩ := Prod.ext_iff.1 hon
  exact h f hr site.tree

/-- Only the results that the first part can have matter for the second. -/
theorem FailsBy.bind_of {x : Run α} {f : α → Run β} (hx : FailsBy blame x)
    (hf : ∀ {site a mid}, on site x = (.ok a, mid) → FailsBy blame (f a)) :
    FailsBy blame (x >>= f) := by
  intro site e site' h
  rcases on_bind_error.1 h with h | ⟨a, mid, ha, h⟩
  · exact hx h
  · exact hf ha h

theorem FailsBy.bind {x : Run α} {f : α → Run β} (hx : FailsBy blame x)
    (hf : ∀ a, FailsBy blame (f a)) : FailsBy blame (x >>= f) :=
  hx.bind_of fun {_ a _} _ => hf a

theorem FailsBy.mapM {f : γ → Run α} {cs : List γ} (hf : ∀ c ∈ cs, FailsBy blame (f c)) :
    FailsBy blame (cs.mapM f) := by
  intro site e site' h
  obtain ⟨done, c, rest, as, mid, rfl, -, hc⟩ := on_mapM_error h
  exact hf c (List.mem_append_right done List.mem_cons_self) hc

theorem FailsBy.forM {f : γ → Run PUnit} {cs : List γ} (hf : ∀ c ∈ cs, FailsBy blame (f c)) :
    FailsBy blame (cs.forM f) := by
  induction cs with
  | nil => exact failsBy_pure _
  | cons c rest ih =>
    exact (hf c List.mem_cons_self).bind fun _ => ih fun d hd => hf d (List.mem_cons_of_mem c hd)

end Groundwork.Run
