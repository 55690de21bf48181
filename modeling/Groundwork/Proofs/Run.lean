import Groundwork.Proofs.Tree.Growth
import Groundwork.Run

/-!
# What a run does to the tree

Three ways to speak of a run. `on_bind_ok` takes a run that succeeded apart. `Keeps` holds of every
end of a run, a failure included: the tree has only grown. `RestsAt` says that a run succeeds on a
tree and leaves that very tree behind; runs that rest compose without any side condition.
-/

namespace Groundwork.Run

variable {α β : Type} {edited : List Path} {site site' : Site} {t : Tree}

@[simp] theorem on_pure (site : Site) (a : α) : on site (pure a : Run α) = (.ok a, site) := rfl

@[simp] theorem on_throw (site : Site) (f : Failure) :
    on site (throw f : Run α) = (.error f, site) := rfl

@[simp] theorem on_tree (site : Site) : on site tree = (.ok site.tree, site) := rfl

@[simp] theorem on_setTree (site : Site) (t : Tree) :
    on site (setTree t) = (.ok (), { site with tree := t }) := rfl

@[simp] theorem on_notify (site : Site) (n : Notice) :
    on site (notify n) = (.ok (), { site with notices := site.notices ++ [n] }) := rfl

@[simp] theorem on_notifyAll (site : Site) (ns : List Notice) :
    on site (notifyAll ns) = (.ok (), { site with notices := site.notices ++ ns }) := rfl

@[simp] theorem on_ofExcept (site : Site) (r : Except Failure α) :
    on site (ofExcept r) = (r, site) := by
  cases r <;> rfl

theorem on_ask (site : Site) (path : Path) (r : Except FileFault α) :
    on site (ask path r) = (r.mapError (Failure.unreachable path), site) := by
  cases r <;> rfl

theorem on_bind (site : Site) (x : Run α) (f : α → Run β) :
    on site (x >>= f) = match on site x with
      | (.ok a, site') => on site' (f a)
      | (.error e, site') => (.error e, site') := by
  have h : on site (x >>= f) = match on site x with
      | (r, mid) => (ExceptT.bindCont f r : StateM Site (Except Failure β)) mid := rfl
  rw [h]
  rcases on site x with ⟨_ | a, mid⟩ <;> rfl

theorem on_ok_of_isOk {run : Run α} (h : (on site run).1.isOk) :
    ∃ a site', on site run = (.ok a, site') := by
  rcases hon : on site run with ⟨e | a, site'⟩
  · rw [hon] at h
    cases h
  · exact ⟨a, site', rfl⟩

theorem on_bind_ok {x : Run α} {f : α → Run β} {b : β} :
    on site (x >>= f) = (.ok b, site') ↔
      ∃ a mid, on site x = (.ok a, mid) ∧ on mid (f a) = (.ok b, site') := by
  rw [on_bind]
  rcases on site x with ⟨e | a, mid⟩
  · simp
  · constructor
    · intro h
      exact ⟨a, mid, rfl, h⟩
    · rintro ⟨a', mid', h, h'⟩
      cases h
      exact h'

theorem on_tryCatch (site : Site) (x : Run α) (handle : Failure → Run α) :
    on site (tryCatch x handle) = match on site x with
      | (.ok a, site') => (.ok a, site')
      | (.error f, site') => on site' (handle f) := by
  have h : on site (tryCatch x handle) = match on site x with
      | (r, mid) => (ExceptT.tryCatch (ExceptT.mk (pure r)) handle).run mid := rfl
  rw [h]
  rcases on site x with ⟨_ | a, mid⟩ <;> rfl

@[simp] theorem ofExcept_ok (a : α) : ofExcept (.ok a) = pure a := rfl

@[simp] theorem ofExcept_error (f : Failure) : ofExcept (.error f) = (throw f : Run α) := rfl

@[simp] theorem throw_bind (f : Failure) (g : α → Run β) :
    (throw f : Run α) >>= g = throw f := rfl

@[simp] theorem notifyAll_nil : notifyAll [] = pure () := by
  funext site
  show (Except.ok (), { site with notices := site.notices ++ [] }) = _
  rw [List.append_nil]
  rfl

/-- However the run ends, the tree has grown, with changes only where an edited path leads. -/
def Keeps (edited : List Path) (run : Run α) : Prop :=
  ∀ site : Site, site.tree.Grows edited (on site run).2.tree

theorem Keeps.grows {run : Run α} (h : Keeps edited run) {r : Except Failure α}
    (hon : on site run = (r, site')) : site.tree.Grows edited site'.tree := by
  have := h site
  rwa [hon] at this

theorem keeps_of_tree_eq {run : Run α} (h : ∀ site, (on site run).2.tree = site.tree) :
    Keeps edited run := by
  intro site
  rw [h site]
  exact .refl edited site.tree

theorem Keeps.mono {more : List Path} {run : Run α} (h : Keeps edited run)
    (hsub : edited ⊆ more) : Keeps more run :=
  fun site => (h site).mono hsub

theorem keeps_pure (edited : List Path) (a : α) : Keeps edited (pure a : Run α) :=
  keeps_of_tree_eq fun _ => rfl

theorem keeps_throw (edited : List Path) (f : Failure) : Keeps edited (throw f : Run α) :=
  keeps_of_tree_eq fun _ => rfl

theorem keeps_tree (edited : List Path) : Keeps edited tree :=
  keeps_of_tree_eq fun _ => rfl

theorem keeps_notify (edited : List Path) (n : Notice) : Keeps edited (notify n) :=
  keeps_of_tree_eq fun _ => rfl

theorem keeps_notifyAll (edited : List Path) (ns : List Notice) : Keeps edited (notifyAll ns) :=
  keeps_of_tree_eq fun _ => rfl

theorem keeps_ofExcept (edited : List Path) (r : Except Failure α) : Keeps edited (ofExcept r) :=
  keeps_of_tree_eq fun site => by rw [on_ofExcept]

theorem keeps_ask (edited : List Path) (path : Path) (r : Except FileFault α) :
    Keeps edited (ask path r) :=
  keeps_of_tree_eq fun site => by rw [on_ask]

/-- Only the results that the first part can have matter for the second. -/
theorem Keeps.bind_of {x : Run α} {f : α → Run β} (hx : Keeps edited x)
    (hf : ∀ {site a site'}, on site x = (.ok a, site') → Keeps edited (f a)) :
    Keeps edited (x >>= f) := by
  intro site
  rw [on_bind]
  have h := hx site
  rcases hon : on site x with ⟨e | a, mid⟩
  · rw [hon] at h
    exact h
  · rw [hon] at h
    exact h.trans (hf hon mid)

theorem Keeps.bind {x : Run α} {f : α → Run β} (hx : Keeps edited x)
    (hf : ∀ a, Keeps edited (f a)) : Keeps edited (x >>= f) :=
  hx.bind_of fun {_ a _} _ => hf a

theorem Keeps.mapM {γ : Type} {f : γ → Run α} (hf : ∀ c, Keeps edited (f c)) (cs : List γ) :
    Keeps edited (cs.mapM f) := by
  induction cs with
  | nil => exact keeps_pure edited []
  | cons c rest ih =>
    rw [List.mapM_cons]
    exact (hf c).bind fun a => ih.bind fun as => keeps_pure edited _

theorem Keeps.forM {γ : Type} {f : γ → Run PUnit} (hf : ∀ c, Keeps edited (f c)) (cs : List γ) :
    Keeps edited (cs.forM f) := by
  induction cs with
  | nil => exact keeps_pure edited _
  | cons c rest ih => exact (hf c).bind fun _ => ih

/-- A run over a list that succeeded: what every step keeps holds at the end, and so does what one
step brings about, for each of them with its result. -/
theorem on_mapM_ok {γ : Type} {f : γ → Run α} {cs : List γ} {as : List α} {inv : Tree → Prop}
    {done : γ → α → Tree → Prop}
    (hstep : ∀ c ∈ cs, ∀ {site a site'}, on site (f c) = (.ok a, site') → inv site.tree →
      inv site'.tree ∧ done c a site'.tree)
    (hkeep : ∀ c ∈ cs, ∀ {site a site' d b}, on site (f c) = (.ok a, site') →
      done d b site.tree → done d b site'.tree)
    (h : on site (cs.mapM f) = (.ok as, site')) (hinv : inv site.tree) :
    inv site'.tree ∧ as.length = cs.length ∧ ∀ p ∈ cs.zip as, done p.1 p.2 site'.tree := by
  induction cs generalizing site as inv with
  | nil =>
    cases h
    exact ⟨hinv, rfl, fun p hp => by cases hp⟩
  | cons c rest ih =>
    rw [List.mapM_cons] at h
    obtain ⟨a, mid, hfirst, h⟩ := on_bind_ok.1 h
    obtain ⟨later, mid', hrest, h⟩ := on_bind_ok.1 h
    cases h
    -- the later steps keep what the first one brought about, so it joins their invariant
    let both : Tree → Prop := fun t => inv t ∧ done c a t
    have hmid : both mid.tree := hstep c List.mem_cons_self hfirst hinv
    have hlater : ∀ d ∈ rest, ∀ {site b site'}, on site (f d) = (.ok b, site') →
        both site.tree → both site'.tree ∧ done d b site'.tree := by
      intro d hd _ b _ hon hboth
      obtain ⟨hinv', hdone'⟩ := hstep d (List.mem_cons_of_mem c hd) hon hboth.1
      exact ⟨⟨hinv', hkeep d (List.mem_cons_of_mem c hd) hon hboth.2⟩, hdone'⟩
    obtain ⟨⟨hend, hdone⟩, hlength, hall⟩ := ih hlater
      (fun d hd => hkeep d (List.mem_cons_of_mem c hd)) hrest hmid
    refine ⟨hend, by rw [List.length_cons, List.length_cons, hlength], fun p hp => ?_⟩
    rw [List.zip_cons_cons] at hp
    rcases List.mem_cons.1 hp with rfl | hp
    · exact hdone
    · exact hall p hp

/-- The run succeeds with `a` on the tree `t` and leaves `t` as it is. -/
def RestsAt (t : Tree) (run : Run α) (a : α) : Prop :=
  ∀ notices, ∃ notices', on ⟨t, notices⟩ run = (.ok a, ⟨t, notices'⟩)

theorem RestsAt.ends {run : Run α} {a : α} (h : RestsAt site.tree run a) :
    ∃ notices, on site run = (.ok a, ⟨site.tree, notices⟩) :=
  h site.notices

theorem rests_pure (t : Tree) (a : α) : RestsAt t (pure a) a :=
  fun notices => ⟨notices, rfl⟩

theorem rests_tree (t : Tree) : RestsAt t tree t :=
  fun notices => ⟨notices, rfl⟩

theorem rests_notify (t : Tree) (n : Notice) : RestsAt t (notify n) () :=
  fun notices => ⟨notices ++ [n], rfl⟩

theorem rests_notifyAll (t : Tree) (ns : List Notice) : RestsAt t (notifyAll ns) () :=
  fun notices => ⟨notices ++ ns, rfl⟩

theorem rests_ofExcept (t : Tree) (a : α) : RestsAt t (ofExcept (.ok a)) a :=
  fun notices => ⟨notices, rfl⟩

theorem rests_ask (t : Tree) (path : Path) (a : α) : RestsAt t (ask path (.ok a)) a :=
  fun notices => ⟨notices, rfl⟩

theorem RestsAt.bind {x : Run α} {f : α → Run β} {a : α} {b : β} (hx : RestsAt t x a)
    (hf : RestsAt t (f a) b) : RestsAt t (x >>= f) b := by
  intro notices
  obtain ⟨notices', h⟩ := hx notices
  obtain ⟨notices'', h'⟩ := hf notices'
  exact ⟨notices'', on_bind_ok.2 ⟨a, _, h, h'⟩⟩

/-- A run that rests has nothing to be handled. -/
theorem RestsAt.tryCatch {x : Run α} {a : α} (h : RestsAt t x a) (handle : Failure → Run α) :
    RestsAt t (tryCatch x handle) a := by
  intro notices
  obtain ⟨notices', hx⟩ := h notices
  exact ⟨notices', by rw [on_tryCatch, hx]⟩

theorem RestsAt.mapM {γ : Type} {f : γ → Run α} {g : γ → α} {cs : List γ}
    (hf : ∀ c ∈ cs, RestsAt t (f c) (g c)) : RestsAt t (cs.mapM f) (cs.map g) := by
  induction cs with
  | nil => exact rests_pure t []
  | cons c rest ih =>
    rw [List.mapM_cons]
    exact (hf c (by simp)).bind ((ih fun d hd => hf d (by simp [hd])).bind (rests_pure t _))

theorem RestsAt.forM {γ : Type} {f : γ → Run PUnit} {cs : List γ}
    (hf : ∀ c ∈ cs, RestsAt t (f c) ()) : RestsAt t (cs.forM f) () := by
  induction cs with
  | nil => exact rests_pure t _
  | cons c rest ih => exact (hf c (by simp)).bind (ih fun d hd => hf d (by simp [hd]))

end Groundwork.Run
