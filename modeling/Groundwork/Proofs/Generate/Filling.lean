import Groundwork.Proofs.Generate.NoClobber
import Groundwork.Proofs.Tree.Places

/-!
# What is new after a generator

However a generator ends, a directory that is new lies on the way to a directory or a file that was
asked for, and a file that is new lies where an output leads and holds its template filled in. The
only exception is a file that a patch may have changed after it was written.
-/

namespace Groundwork

namespace Tree

variable {edited more dirs others : List Path} {files wider : Path → List UInt8 → Prop}
  {a b c t : Tree} {path : Path}

/-- From `a` to `b` the tree has grown, by directories on the way to `dirs` and by `files`, each at
its path. A file that an edited path leads to may hold anything. -/
structure Fills (edited dirs : List Path) (files : Path → List UInt8 → Prop) (a b : Tree) :
    Prop where
  grows : Grows edited a b
  directory : ∀ place, a.node? place = none → b.node? place = some .directory →
    ∃ d ∈ dirs, ∃ p, Path.Above p d ∧ b.locate p = .ok place
  file : ∀ place octets, a.node? place = none → b.node? place = some (.file octets) →
    ∃ path written, files path written ∧ b.locate path = .ok place ∧
      (octets = written ∨ ∃ e ∈ edited, b.locate e = .ok place)

/-- A tree that has grown without new entries. -/
theorem Grows.fills (h : Grows edited a b) (hnone : ∀ p, a.node? p = none → b.node? p = none) :
    Fills edited dirs files a b where
  grows := h
  directory p hp hd := by
    rw [hnone p hp] at hd
    cases hd
  file p o hp hf := by
    rw [hnone p hp] at hf
    cases hf

theorem Fills.refl (edited dirs : List Path) (files : Path → List UInt8 → Prop) (t : Tree) :
    Fills edited dirs files t t :=
  (Grows.refl edited t).fills fun _ h => h

theorem Fills.trans (hab : Fills edited dirs files a b) (hbc : Fills edited dirs files b c) :
    Fills edited dirs files a c where
  grows := hab.grows.trans hbc.grows
  directory p hp hd := by
    cases hb : b.node? p with
    | none => exact hbc.directory p hb hd
    | some n =>
      cases n with
      | directory =>
        obtain ⟨d, hmem, q, hq, hl⟩ := hab.directory p hp hb
        exact ⟨d, hmem, q, hq, hbc.grows.locate hl⟩
      | file o =>
        obtain ⟨o', ho', -⟩ := hbc.grows.file p o hb
        rw [ho'] at hd
        cases hd
  file p o hp hf := by
    cases hb : b.node? p with
    | none => exact hbc.file p o hb hf
    | some n =>
      cases n with
      | directory =>
        rw [hbc.grows.directory p hb] at hf
        cases hf
      | file o' =>
        obtain ⟨path, written, hfile, hl, hsame⟩ := hab.file p o' hp hb
        obtain ⟨o'', ho'', hkept⟩ := hbc.grows.file p o' hb
        rw [ho''] at hf
        cases hf
        refine ⟨path, written, hfile, hbc.grows.locate hl, ?_⟩
        rcases hkept with rfl | hedited
        · rcases hsame with rfl | ⟨e, he, hle⟩
          · exact .inl rfl
          · exact .inr ⟨e, he, hbc.grows.locate hle⟩
        · exact .inr hedited

theorem Fills.mono (h : Fills edited dirs files a b) (hedited : edited ⊆ more)
    (hdirs : dirs ⊆ others) (hfiles : ∀ path o, files path o → wider path o) :
    Fills more others wider a b where
  grows := h.grows.mono hedited
  directory p hp hd := by
    obtain ⟨d, hmem, q, hq, hl⟩ := h.directory p hp hd
    exact ⟨d, hdirs hmem, q, hq, hl⟩
  file p o hp hf := by
    obtain ⟨path, written, hfile, hl, hsame⟩ := h.file p o hp hf
    refine ⟨path, written, hfiles path written hfile, hl, hsame.imp_right ?_⟩
    rintro ⟨e, he, hle⟩
    exact ⟨e, hedited he, hle⟩

theorem fills_ensureDirectory (t : Tree) (path : Path) (files : Path → List UInt8 → Prop) :
    Fills [] [path] files t (t.ensureDirectory path).1 := by
  obtain ⟨hwidens, -⟩ := ensureDirectory_spec t path
  refine ⟨hwidens.grows, fun p hp hd => ?_, fun p o hp hf => ?_⟩
  · obtain ⟨q, hq, hl⟩ := madeFor_ensureDirectory t path p .directory hp hd
    exact ⟨path, List.mem_singleton_self path, q, hq, hl⟩
  · rw [hwidens.file p o hf] at hp
    cases hp

theorem fills_create {octets : List UInt8} (h : t.create path (.file octets) = .ok b) :
    Fills [] [] (fun p o => p = path ∧ o = octets) t b := by
  have hgrows := grows_create h
  obtain ⟨place, vacant, hl, rfl⟩ := create_of_ok h
  refine ⟨hgrows, fun p hp hd => ?_, fun p o hp hf => ?_⟩
  · rw [node?_add] at hd
    split at hd
    · cases hd
    · rw [hp] at hd
      cases hd
  · rw [node?_add] at hf
    split at hf
    · rename_i hplace
      cases hf
      exact ⟨path, octets, ⟨rfl, rfl⟩, hplace ▸ hgrows.locate hl, .inl rfl⟩
    · rw [hp] at hf
      cases hf

variable {root : Path} {r q : Location} {octets : List UInt8}

/-- A new directory below a guarded root belongs to the way down from there. -/
theorem Fills.directory_below (h : Fills edited dirs files a b) (hroot : Guards a root r)
    (hdirs : ∀ d ∈ dirs, ∃ rest, root.Descends d rest) (hnone : a.node? (r ++ q) = none)
    (hnode : b.node? (r ++ q) = some .directory) :
    ∃ d ∈ dirs, ∃ rest, root.Descends d (q ++ rest) := by
  obtain ⟨d, hd, p, hp, hl⟩ := h.directory _ hnone hnode
  obtain ⟨down, hdown⟩ := hdirs d hd
  have hplace : lead (a.start p) p.parts = r ++ q := by
    rw [eq_lead_of_locate hl, start_eq_of_home h.grows.home rfl]
  have hbelow : root.Above p := by
    rcases hp.total hdown.above with hup | hbelow
    · by_cases hparts : p.parts = root.parts
      · rw [Path.ext hup.anchor hparts]
        exact .refl root
      · exact absurd hnone (hroot.way p hup hparts q hplace)
    · exact hbelow
  obtain ⟨passed, hpassed⟩ := hbelow.parts
  obtain ⟨rest, hrest⟩ := hp.parts
  have hsplit : down = passed ++ rest := by
    have hparts : root.parts ++ down = root.parts ++ (passed ++ rest) := by
      rw [← hdown.parts, ← hrest, ← hpassed, List.append_assoc]
    exact List.append_cancel_left hparts
  have hpath : root.Descends p passed := by
    refine ⟨hbelow.anchor.symm, hpassed.symm, fun hup => hdown.down ?_⟩
    rw [hsplit]
    exact List.mem_append_left rest hup
  have hq : q = passed := by
    rw [lead_descends hpath, ← hroot.place] at hplace
    exact (List.append_cancel_left hplace).symm
  subst hq
  exact ⟨d, hd, rest, hsplit ▸ hdown⟩

/-- A new file below a guarded root is one of the files that belong there. -/
theorem Fills.file_below (h : Fills edited dirs files a b) (hroot : Guards a root r)
    (hfiles : ∀ path o, files path o → ∃ rest, root.Descends path rest)
    (hnone : a.node? (r ++ q) = none) (hnode : b.node? (r ++ q) = some (.file octets)) :
    ∃ path written, files path written ∧ root.Descends path q ∧
      (octets = written ∨ ∃ e ∈ edited, b.locate e = .ok (r ++ q)) := by
  obtain ⟨path, written, hfile, hl, hsame⟩ := h.file _ octets hnone hnode
  obtain ⟨down, hdown⟩ := hfiles path written hfile
  have hq : q = down := by
    have hplace := eq_lead_of_locate hl
    rw [start_eq_of_home h.grows.home rfl, lead_descends hdown, ← hroot.place] at hplace
    exact List.append_cancel_left hplace
  exact ⟨path, written, hfile, hq ▸ hdown, hsame⟩

end Tree

namespace Run

variable {α β γ : Type} {edited more dirs others : List Path}
  {files wider : Path → List UInt8 → Prop} {site site' : Site}

/-- However the run ends, the tree has filled up. -/
def Fills (edited dirs : List Path) (files : Path → List UInt8 → Prop) (run : Run α) : Prop :=
  ∀ site : Site, Tree.Fills edited dirs files site.tree (on site run).2.tree

theorem fills_of_tree_eq {run : Run α} (h : ∀ site, (on site run).2.tree = site.tree) :
    Fills edited dirs files run := by
  intro site
  rw [h site]
  exact .refl edited dirs files site.tree

theorem fills_pure (a : α) : Fills edited dirs files (pure a : Run α) :=
  fills_of_tree_eq fun _ => rfl

theorem Fills.mono {run : Run α} (h : Fills edited dirs files run) (hedited : edited ⊆ more)
    (hdirs : dirs ⊆ others) (hfiles : ∀ path o, files path o → wider path o) :
    Fills more others wider run :=
  fun site => (h site).mono hedited hdirs hfiles

/-- Only the results that the first part can have matter for the second. -/
theorem Fills.bind_of {x : Run α} {f : α → Run β} (hx : Fills edited dirs files x)
    (hf : ∀ {site a site'}, on site x = (.ok a, site') → Fills edited dirs files (f a)) :
    Fills edited dirs files (x >>= f) := by
  intro site
  rw [on_bind]
  have h := hx site
  rcases hon : on site x with ⟨e | a, mid⟩
  · rw [hon] at h
    exact h
  · rw [hon] at h
    exact h.trans (hf hon mid)

theorem Fills.bind {x : Run α} {f : α → Run β} (hx : Fills edited dirs files x)
    (hf : ∀ a, Fills edited dirs files (f a)) : Fills edited dirs files (x >>= f) :=
  hx.bind_of fun {_ a _} _ => hf a

theorem Fills.mapM {f : γ → Run α} {cs : List γ}
    (hf : ∀ c ∈ cs, Fills edited dirs files (f c)) : Fills edited dirs files (cs.mapM f) := by
  induction cs with
  | nil => exact fills_pure []
  | cons c rest ih =>
    have hrest := ih fun d hd => hf d (List.mem_cons_of_mem c hd)
    rw [List.mapM_cons]
    exact (hf c List.mem_cons_self).bind fun a => hrest.bind fun as => fills_pure _

theorem Fills.forM {f : γ → Run PUnit} {cs : List γ}
    (hf : ∀ c ∈ cs, Fills edited dirs files (f c)) : Fills edited dirs files (cs.forM f) := by
  induction cs with
  | nil => exact fills_pure _
  | cons c rest ih =>
    have hrest := ih fun d hd => hf d (List.mem_cons_of_mem c hd)
    exact (hf c List.mem_cons_self).bind fun _ => hrest

theorem fills_ensureDirectory (path : Path) (files : Path → List UInt8 → Prop) :
    Fills [] [path] files (ensureDirectory path) := by
  intro site
  rw [on_ensureDirectory]
  exact Tree.fills_ensureDirectory site.tree path files

theorem fills_writeFile (path : Path) (content : String) :
    Fills [] [path.parent] (fun p o => p = path ∧ o = Text.Utf8.encode content.toList)
      (writeFile path content) := by
  unfold writeFile
  refine (fills_of_tree_eq fun _ => rfl).bind fun t => ?_
  refine (fills_of_tree_eq fun site => by rw [on_ask]).bind fun there => ?_
  split
  · exact fills_of_tree_eq fun _ => rfl
  · refine (fills_ensureDirectory path.parent _).bind fun _ => ?_
    intro site
    rw [on_bind, on_tree]
    dsimp only
    split
    · rename_i t' h
      exact (Tree.fills_create h).mono (List.Subset.refl _) (List.nil_subset _) fun _ _ h => h
    · exact .refl _ _ _ _
    · exact .refl _ _ _ _

theorem fills_patchFile (path : Path) (p : Patch) : Fills [path] dirs files (patchFile path p) := by
  intro site
  refine (keeps_patchFile path p site).fills fun q hq => ?_
  rw [on_patchFile]
  split
  · exact hq
  · exact hq
  · rename_i place octets hoctets
    show (((patchOctets p octets).1.map (site.tree.replace place)).getD site.tree).node? q = none
    cases (patchOctets p octets).1 with
    | none => exact hq
    | some octets' => exact (Tree.node?_replace_none site.tree place q octets').2 hq

end Run

namespace Generate

variable {store : Template.Store} {project : Project} {s : Sheet} {dirs : List Path}
  {files : Path → List UInt8 → Prop} {site site' : Site}

/-- The octets of a template that was filled in. -/
def Prints (store : Template.Store) (template : String) (bindings : Bindings)
    (octets : List UInt8) : Prop :=
  ∃ t text, store.render t template bindings = .ok text ∧ octets = Text.Utf8.encode text.toList

/-- The files that a sheet asks for, with what each may hold. -/
def Asks (store : Template.Store) (project : Project) (s : Sheet) (path : Path)
    (octets : List UInt8) : Prop :=
  ∃ o ∈ outputs project s, path = o.path ∧ Prints store o.template s.bindings octets

/-- The directories that a sheet asks for, for themselves or for a file in them. -/
def folders (project : Project) (s : Sheet) : List Path :=
  directories project s ++ (outputs project s).map fun o => o.path.parent

theorem fills_produce (store : Template.Store) (bindings : Bindings) (o : Output) :
    Run.Fills [] [o.path.parent]
      (fun path octets => path = o.path ∧ Prints store o.template bindings octets)
      (produce store bindings o) := by
  refine (Run.fills_of_tree_eq fun site => ?_).bind_of fun {site text site'} h => ?_
  · rw [on_render]
  · rw [on_render] at h
    have hprints : Prints store o.template bindings (Text.Utf8.encode text.toList) :=
      ⟨site.tree, text, (Prod.ext_iff.1 h).1, rfl⟩
    refine (Run.fills_writeFile o.path text).mono (List.Subset.refl _) (List.Subset.refl _) ?_
    rintro path octets ⟨rfl, rfl⟩
    exact ⟨rfl, hprints⟩

/-- Directories that are made and outputs that are produced below them. -/
theorem fills_producing (store : Template.Store) (bindings : Bindings) (dirs : List Path)
    (os : List Output) :
    Run.Fills [] (dirs ++ os.map fun o => o.path.parent)
      (fun path octets => ∃ o ∈ os, path = o.path ∧ Prints store o.template bindings octets)
      (do dirs.forM Run.ensureDirectory; os.mapM (produce store bindings)) := by
  refine Run.Fills.bind (Run.Fills.forM fun d hd => ?_) fun _ => Run.Fills.mapM fun o ho => ?_
  · refine (Run.fills_ensureDirectory d _).mono (List.Subset.refl _) ?_ fun _ _ h => h
    intro p hp
    rw [List.mem_singleton.1 hp]
    exact List.mem_append_left _ hd
  · refine (fills_produce store bindings o).mono (List.Subset.refl _) ?_ ?_
    · intro p hp
      rw [List.mem_singleton.1 hp]
      exact List.mem_append_right _ (List.mem_map_of_mem ho)
    · rintro path octets ⟨hpath, hprints⟩
      exact ⟨o, ho, hpath, hprints⟩

theorem fills_write (store : Template.Store) (project : Project) (s : Sheet) :
    Run.Fills [] (folders project s) (Asks store project s) (write store project s) :=
  fills_producing store s.bindings (directories project s) (outputs project s)

theorem fills_addRepositoryMethods (project : Project) (package repository entity : String) :
    Run.Fills [project.sourcePath package repository] dirs files
      (addRepositoryMethods project package repository entity) := by
  unfold addRepositoryMethods addOptionalImport
  refine (Run.fills_patchFile _ _).bind fun find => ?_
  split
  · exact Run.fills_pure _
  · refine (Run.fills_patchFile _ _).bind fun _ => ?_
    refine Run.Fills.bind ((Run.fills_patchFile _ _).bind fun patched => ?_) fun _ =>
      Run.fills_pure _
    split
    · exact Run.fills_patchFile _ _
    · exact Run.fills_pure _

theorem fills_addBuildDependencies (project : Project) :
    Run.Fills [buildFile project] dirs files (addBuildDependencies project) :=
  (Run.fills_patchFile _ _).bind fun _ => (Run.fills_patchFile _ _).bind fun _ => Run.fills_pure _

theorem fills_securityBundle (store : Template.Store) (project : Project) (s : SecuritySheet) :
    Run.Fills (patchable project s) (folders project (.security s))
      (Asks store project (.security s)) (securityBundle store project s) := by
  have hbuild : [buildFile project] ⊆ patchable project s := by
    simp [patchable]
  rw [securityBundle_eq]
  refine ((fills_write store project (.security s)).mono (List.nil_subset _)
    (List.Subset.refl _) fun _ _ h => h).bind fun written => ?_
  refine ((fills_addBuildDependencies project).mono hbuild (List.Subset.refl _)
    fun _ _ h => h).bind fun libraries => ?_
  refine Run.Fills.bind_of (Run.fills_of_tree_eq fun site => ?_) fun {_ package _} h => ?_
  · unfold packageText
    split <;> rfl
  · obtain ⟨hv, -⟩ := packageText_ok h
    have hrepository : [project.sourcePath package s.userRepository] ⊆ patchable project s := by
      simp [patchable, hv]
    exact ((fills_addRepositoryMethods project package _ _).mono hrepository
      (List.Subset.refl _) fun _ _ h => h).bind fun _ => Run.fills_pure _

/-- However a sheet is carried out, the tree has filled up with what the sheet asks for. -/
theorem fills_carryOut (store : Template.Store) (project : Project) (s : Sheet) :
    Run.Fills (s.patchable project) (folders (s.placed project) s)
      (Asks store (s.placed project) s) (carryOut store project s) := by
  unfold carryOut
  split
  · exact (fills_securityBundle store project _).bind fun _ => Run.fills_pure _
  · refine (Run.fills_of_tree_eq fun _ => rfl).bind fun _ => ?_
    exact ((fills_write store (s.placed project) s).mono (List.nil_subset _)
      (List.Subset.refl _) fun _ _ h => h).bind fun _ => Run.fills_pure _

end Generate

namespace Operation

open Generate

/-- However a generator ends, the tree has filled up with what its sheet asks for. -/
theorem fills_forBlueprint (store : Template.Store) (project : Project) (b : Blueprint) {s : Sheet}
    (hs : Sheet.ofBlueprint b = .ok s) :
    Run.Fills (s.patchable project) (folders (s.placed project) s)
      (Asks store (s.placed project) s) (forBlueprint store project b).run := by
  rw [run_forBlueprint]
  refine Run.Fills.bind_of (Run.fills_of_tree_eq fun site => ?_) fun {_ s' _} h => ?_
  · rw [Run.sheet, hs]
    rfl
  · rw [(Run.sheet_ok h).1] at hs
    cases hs
    exact fills_carryOut store project s

end Operation

end Groundwork
