import Groundwork.Proofs.Generate.Account
import Groundwork.Proofs.Generate.Output
import Groundwork.Proofs.Result

/-!
# Writing the files of a sheet

Writing only lets the tree grow, reports what it did, and leaves behind a tree on which the same
writing rests: every directory and file is there. The facts about a list of outputs follow from
those about one output.
-/

namespace Groundwork

namespace Run

variable {site site' : Site} {path : Path} {content : String} {w : Written} {t : Tree}

theorem on_ensureDirectory (site : Site) (path : Path) :
    on site (ensureDirectory path) =
      ((site.tree.ensureDirectory path).2.mapError (Failure.ofDeed .createDirectory path),
        { site with tree := (site.tree.ensureDirectory path).1 }) := by
  unfold ensureDirectory
  rw [on_bind, on_tree]
  rcases h : site.tree.ensureDirectory path with ⟨t, f | u⟩ <;> simp [on_bind, h]

theorem widens_ensureDirectory (site : Site) (path : Path) :
    Tree.Widens site.tree (on site (ensureDirectory path)).2.tree := by
  rw [on_ensureDirectory]
  exact (Tree.ensureDirectory_spec site.tree path).1

theorem keeps_ensureDirectory (path : Path) : Keeps [] (ensureDirectory path) :=
  fun site => (widens_ensureDirectory site path).grows

theorem isDirectory?_of_ensureDirectory (h : on site (ensureDirectory path) = (.ok (), site')) :
    site'.tree.isDirectory? path = .ok true := by
  rw [on_ensureDirectory] at h
  obtain ⟨hr, rfl⟩ := Prod.ext_iff.1 h
  refine (Tree.ensureDirectory_spec site.tree path).2 ?_
  cases ho : (site.tree.ensureDirectory path).2 with
  | error f => simp only [ho] at hr; cases hr
  | ok u => rfl

theorem rests_ensureDirectory (h : t.isDirectory? path = .ok true) :
    RestsAt t (ensureDirectory path) () := by
  intro notices
  refine ⟨notices, ?_⟩
  rw [on_ensureDirectory, Tree.ensureDirectory_of_isDirectory? h]
  rfl

theorem keeps_writeFile (path : Path) (content : String) : Keeps [] (writeFile path content) := by
  unfold writeFile
  refine (keeps_tree []).bind fun t => (keeps_ask [] path _).bind fun there => ?_
  split
  · exact (keeps_notify [] _).bind fun _ => keeps_pure [] _
  · refine (keeps_ensureDirectory path.parent).bind fun _ => ?_
    intro site
    rw [on_bind, on_tree]
    dsimp only
    split
    · rename_i t' h
      exact Tree.grows_create h
    · exact .refl [] _
    · exact .refl [] _

/-- A file is reported as there when it is, and as created when it is a new entry. In both cases
directories may have been made on the way. -/
theorem writeFile_ok (h : on site (writeFile path content) = (.ok w, site')) :
    (w = ⟨path, .alreadyExists⟩ ∧ Tree.Widens site.tree site'.tree ∧
      site'.tree.exists? path = .ok true) ∨
    (w = ⟨path, .created⟩ ∧ ∃ mid place, ∃ vacant : mid.Vacant place,
      Tree.Widens site.tree mid ∧ mid.locate path = .ok place ∧
      site'.tree = mid.add place (.file (Text.Utf8.encode content.toList)) vacant) := by
  unfold writeFile at h
  obtain ⟨t, mid, ht, h⟩ := on_bind_ok.1 h
  cases ht
  obtain ⟨there, mid, hask, h⟩ := on_bind_ok.1 h
  rw [on_ask] at hask
  cases hex : site.tree.exists? path with
  | error f => rw [hex] at hask; cases hask
  | ok answer =>
    rw [hex] at hask
    cases hask
    cases there with
    | true =>
      simp only [if_true] at h
      cases h
      exact .inl ⟨rfl, .refl _, hex⟩
    | false =>
      simp only [Bool.false_eq_true, if_false] at h
      obtain ⟨u, mid, hdir, h⟩ := on_bind_ok.1 h
      have hw : Tree.Widens site.tree mid.tree := by
        have := widens_ensureDirectory site path.parent
        rwa [hdir] at this
      obtain ⟨t, mid', ht, h⟩ := on_bind_ok.1 h
      cases ht
      split at h
      · rename_i t' hc
        obtain ⟨place, vacant, hl, rfl⟩ := Tree.create_of_ok hc
        cases h
        exact .inr ⟨rfl, mid.tree, place, vacant, hw, hl, rfl⟩
      · rename_i hc
        cases h
        exact .inl ⟨rfl, hw, Tree.create_present hc⟩
      · cases h

theorem path_of_writeFile (h : on site (writeFile path content) = (.ok w, site')) :
    w.path = path := by
  rcases writeFile_ok h with ⟨rfl, -⟩ | ⟨rfl, -⟩ <;> rfl

/-- Whatever was written is there. -/
theorem exists?_of_writeFile (h : on site (writeFile path content) = (.ok w, site')) :
    site'.tree.exists? path = .ok true := by
  rcases writeFile_ok h with ⟨-, -, hex⟩ | ⟨-, mid, place, vacant, -, hl, ht⟩
  · exact hex
  · rw [ht]
    exact Tree.exists?_eq_true.2
      ⟨place, _, (Tree.grows_add vacant).locate hl, by rw [Tree.node?_add, if_pos rfl]⟩

theorem truthful_of_writeFile (h : on site (writeFile path content) = (.ok w, site')) :
    Truthful [w] [] site.tree site'.tree := by
  rcases writeFile_ok h with ⟨rfl, hw, -⟩ | ⟨rfl, mid, place, vacant, hw, hl, ht⟩
  · exact (Truthful.of_widens hw).of_present path
  · rw [ht]
    exact (Truthful.of_widens hw).append (Truthful.of_add vacant hl) hw.grows
      (Tree.grows_add vacant)

theorem rests_writeFile (h : t.exists? path = .ok true) (content : String) :
    RestsAt t (writeFile path content) ⟨path, .alreadyExists⟩ := by
  unfold writeFile
  refine (rests_tree t).bind ?_
  rw [h]
  refine (rests_ask t path true).bind ?_
  exact (rests_notify t _).bind (rests_pure t _)

end Run

namespace Template.Store

variable {edited : List Path} {a b : Tree} {store : Store} {name text : String}
  {bindings : Bindings}

/-- No edited path leads to the file of the template. -/
def Apart (store : Store) (name : String) (edited : List Path) (t : Tree) : Prop :=
  ∀ dir parts, store = directory dir → nameParts? name = some parts →
    ∀ path ∈ edited, ∀ place, t.locate path = .ok place →
      t.locate (dir.join (.ofText ("/".intercalate parts))) ≠ .ok place

theorem apart_nil (store : Store) (name : String) (t : Tree) : store.Apart name [] t := by
  intro dir parts _ _ path hp
  cases hp

theorem source?_of_grows (h : a.Grows edited b) {dir : Path} {parts : List String}
    {octets : List UInt8} (hs : source? a dir parts = some octets)
    (hout : ∀ path ∈ edited, ∀ place, b.locate path = .ok place →
      b.locate (dir.join (.ofText ("/".intercalate parts))) ≠ .ok place) :
    source? b dir parts = some octets := by
  unfold source? at hs ⊢
  split at hs
  · cases hs
  · rename_i hshort
    rw [if_neg hshort]
    split at hs
    · rename_i o hi
      obtain ⟨place, hl, hn⟩ := Tree.inspect_eq_ok.1 hi
      have hb := h.same hn fun path hp he => hout path hp place he (h.locate hl)
      rw [Tree.inspect_eq_ok.2 ⟨place, h.locate hl, hb⟩]
      exact hs
    · cases hs

/-- A template that was read is read again while the tree grows, with the same result. -/
theorem load_of_grows (h : a.Grows edited b) (hap : store.Apart name edited b)
    {template : Template} (hl : store.load a name = .ok template) :
    store.load b name = .ok template := by
  unfold load at hl ⊢
  cases hp : nameParts? name with
  | none => simp only [hp] at hl; cases hl
  | some parts =>
    simp only [hp] at hl ⊢
    cases store with
    | bundled => exact hl
    | directory dir =>
      simp only at hl ⊢
      cases hs : source? a dir parts with
      | none => simp only [hs] at hl; cases hl
      | some octets =>
        rw [source?_of_grows h hs (hap dir parts rfl hp)]
        simpa only [hs] using hl

theorem render_of_grows (h : a.Grows edited b) (hap : store.Apart name edited b)
    (hr : store.render a name bindings = .ok text) :
    store.render b name bindings = .ok text := by
  unfold render at hr ⊢
  cases hl : store.load a name with
  | error f => rw [hl] at hr; cases hr
  | ok template =>
    rw [load_of_grows h hap hl]
    rwa [hl] at hr

end Template.Store

namespace Generate

variable {edited : List Path} {a b t : Tree} {store : Template.Store} {bindings : Bindings}
  {o : Output} {w : Written} {ws : List Written} {site site' : Site}

/-- An output that is in place: its template can be rendered, and something is at its path. -/
structure InPlace (store : Template.Store) (bindings : Bindings) (t : Tree) (o : Output) : Prop where
  renders : ∃ text, store.render t o.template bindings = .ok text
  there : t.exists? o.path = .ok true

theorem InPlace.grows (hin : InPlace store bindings a o) (h : a.Grows edited b)
    (hap : store.Apart o.template edited b) : InPlace store bindings b o where
  renders := by
    obtain ⟨text, hr⟩ := hin.renders
    exact ⟨text, Template.Store.render_of_grows h hap hr⟩
  there := h.exists? hin.there

theorem on_render (site : Site) (store : Template.Store) (name : String) (bindings : Bindings) :
    Run.on site (Run.render store name bindings)
      = (store.render site.tree name bindings, site) := by
  rw [Run.render, Run.on_bind, Run.on_tree]
  exact Run.on_ofExcept site _

theorem keeps_render (store : Template.Store) (name : String) (bindings : Bindings) :
    Run.Keeps [] (Run.render store name bindings) :=
  (Run.keeps_tree []).bind fun _ => Run.keeps_ofExcept [] _

theorem keeps_produce (store : Template.Store) (bindings : Bindings) (o : Output) :
    Run.Keeps [] (produce store bindings o) :=
  (keeps_render store o.template bindings).bind fun text => Run.keeps_writeFile o.path text

theorem produce_ok (h : Run.on site (produce store bindings o) = (.ok w, site')) :
    ∃ text, store.render site.tree o.template bindings = .ok text ∧
      Run.on site (Run.writeFile o.path text) = (.ok w, site') := by
  obtain ⟨text, mid, hr, h⟩ := Run.on_bind_ok.1 h
  rw [on_render] at hr
  obtain ⟨hr, rfl⟩ := Prod.ext_iff.1 hr
  exact ⟨text, hr, h⟩

theorem inPlace_of_produce (h : Run.on site (produce store bindings o) = (.ok w, site')) :
    InPlace store bindings site'.tree o where
  renders := by
    obtain ⟨text, hr, hw⟩ := produce_ok h
    exact ⟨text, Template.Store.render_of_grows ((Run.keeps_writeFile o.path text).grows hw)
      (Template.Store.apart_nil store o.template _) hr⟩
  there := by
    obtain ⟨text, -, hw⟩ := produce_ok h
    exact Run.exists?_of_writeFile hw

theorem rests_produce (h : InPlace store bindings t o) :
    Run.RestsAt t (produce store bindings o) o.left := by
  obtain ⟨text, hr⟩ := h.renders
  refine Run.RestsAt.bind (a := text) ?_ (Run.rests_writeFile h.there text)
  refine (Run.rests_tree t).bind ?_
  rw [hr]
  exact Run.rests_ofExcept t text

/-- The outputs of a list are written in order; each is in place at the end, and the reports
account for all of them. -/
theorem produceAll_ok {os : List Output}
    (h : Run.on site (os.mapM (produce store bindings)) = (.ok ws, site')) :
    ws.map Written.path = os.map Output.path ∧
      Truthful ws [] site.tree site'.tree ∧
      site.tree.Grows [] site'.tree ∧
      ∀ o ∈ os, InPlace store bindings site'.tree o := by
  induction os generalizing site ws with
  | nil =>
    cases h
    exact ⟨rfl, .refl _, .refl [] _, fun o ho => by cases ho⟩
  | cons o rest ih =>
    rw [List.mapM_cons] at h
    obtain ⟨w, mid, hw, h⟩ := Run.on_bind_ok.1 h
    obtain ⟨ws', mid', hws, h⟩ := Run.on_bind_ok.1 h
    cases h
    obtain ⟨hpaths, htrue, hgrows, hin⟩ := ih hws
    obtain ⟨text, -, hfile⟩ := produce_ok hw
    have hmid := (keeps_produce store bindings o).grows hw
    refine ⟨?_, ?_, hmid.trans hgrows, ?_⟩
    · rw [List.map_cons, List.map_cons, hpaths, Run.path_of_writeFile hfile]
    · exact (Run.truthful_of_writeFile hfile).append htrue hmid hgrows
    · intro o' ho'
      rcases List.mem_cons.1 ho' with rfl | ho'
      · exact (inPlace_of_produce hw).grows hgrows (Template.Store.apart_nil store _ _)
      · exact hin o' ho'

theorem keeps_ensureDirectories (dirs : List Path) :
    Run.Keeps [] (dirs.forM Run.ensureDirectory) :=
  Run.Keeps.forM Run.keeps_ensureDirectory dirs

theorem ensureDirectories_ok {dirs : List Path}
    (h : Run.on site (dirs.forM Run.ensureDirectory) = (.ok (), site')) :
    Tree.Widens site.tree site'.tree ∧ ∀ d ∈ dirs, site'.tree.isDirectory? d = .ok true := by
  induction dirs generalizing site with
  | nil =>
    cases h
    exact ⟨.refl _, fun d hd => by cases hd⟩
  | cons d rest ih =>
    obtain ⟨u, mid, hd, h⟩ := Run.on_bind_ok.1 h
    have hw : Tree.Widens site.tree mid.tree := by
      have := Run.widens_ensureDirectory site d
      rwa [hd] at this
    obtain ⟨hrest, hthere⟩ := ih h
    refine ⟨hw.trans hrest, fun d' hd' => ?_⟩
    rcases List.mem_cons.1 hd' with rfl | hd'
    · exact hrest.grows.isDirectory? (Run.isDirectory?_of_ensureDirectory hd)
    · exact hthere d' hd'

/-- All that a sheet asks for is there, and its templates can be rendered. -/
structure Standing (store : Template.Store) (project : Project) (s : Sheet) (t : Tree) : Prop where
  directories : ∀ d ∈ directories project s, t.isDirectory? d = .ok true
  outputs : ∀ o ∈ outputs project s, InPlace store s.bindings t o

variable {project : Project} {s : Sheet}

theorem Standing.grows (hs : Standing store project s a) (h : a.Grows edited b)
    (hap : ∀ o ∈ Generate.outputs project s, store.Apart o.template edited b) :
    Standing store project s b where
  directories d hd := h.isDirectory? (hs.directories d hd)
  outputs o ho := (hs.outputs o ho).grows h (hap o ho)

theorem keeps_write (store : Template.Store) (project : Project) (s : Sheet) :
    Run.Keeps [] (write store project s) :=
  (keeps_ensureDirectories _).bind fun _ => .mapM (keeps_produce store s.bindings) _

theorem write_ok (h : Run.on site (write store project s) = (.ok ws, site')) :
    ws.map Written.path = (outputs project s).map Output.path ∧
      Truthful ws [] site.tree site'.tree ∧ Standing store project s site'.tree := by
  obtain ⟨u, mid, hd, h⟩ := Run.on_bind_ok.1 h
  obtain ⟨hw, hthere⟩ := ensureDirectories_ok hd
  obtain ⟨hpaths, htrue, hgrows, hin⟩ := produceAll_ok h
  have hall := (Truthful.of_widens hw).append htrue hw.grows hgrows
  exact ⟨hpaths, hall, fun d hd => hgrows.isDirectory? (hthere d hd), hin⟩

/-- Writing rests once everything is there. -/
theorem rests_write (h : Standing store project s t) :
    Run.RestsAt t (write store project s) ((outputs project s).map Output.left) := by
  have hdirs : Run.RestsAt t ((directories project s).forM Run.ensureDirectory) () :=
    .forM fun d hd => Run.rests_ensureDirectory (h.directories d hd)
  have houts : Run.RestsAt t ((outputs project s).mapM (produce store s.bindings))
      ((outputs project s).map Output.left) :=
    .mapM fun o ho => rests_produce (h.outputs o ho)
  exact hdirs.bind houts

end Generate

end Groundwork
