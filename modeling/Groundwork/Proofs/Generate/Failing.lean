import Groundwork.Proofs.Failing
import Groundwork.Proofs.Generate.NoClobber
import Groundwork.Proofs.Tree.Refusal

/-!
# How a generator fails

What the file system refuses is a failure that is reported, unless the path cannot be asked about
at all. Rendering fails with the fault of its template. Whatever a generator fails with is to blame
on one of its paths, on one of its templates, or on the package of the user repository.
-/

namespace Groundwork

/-- A failure to blame on a path. A refusal is one that is reported; a path that is too long, or
that holds a character no name can hold, is not refused but out of reach, at its end or at the
directory of its end. -/
inductive Failure.OnPath (t : Tree) (path : Path) : Failure → Prop where
  | refused (deed : Deed) (place : Path) (fault : FileFault) :
    OnPath t path (.files deed place fault)
  | tooLong : t.locate path = .error .nameTooLong → OnPath t path (.unreachable path .nameTooLong)
  | unnameable (place : Path) : place = path ∨ place = path.parent →
    t.locate path = .error .nullCharacter → OnPath t path (.unreachable place .nullCharacter)

/-- Any other fault than a key looked up in vain is one of the template. -/
theorem Failure.ofTemplate_of_ne {name : String} {fault : Template.Fault}
    (h : fault ≠ .misuse .noKeyZero) : ofTemplate name fault = .template name fault := by
  unfold ofTemplate
  split
  · exact absurd rfl h
  · rfl

namespace Run

variable {site site' : Site} {t : Tree} {path : Path} {f : Failure}

/-- A deed fails as a refusal, unless the path holds a character that no name can hold. -/
theorem onPath_of_ofDeed {deed : Deed} {place : Path} {fault : FileFault}
    (hplace : place = path ∨ place = path.parent)
    (hnull : fault = .nullCharacter → t.locate path = .error .nullCharacter) :
    Failure.OnPath t path (.ofDeed deed place fault) := by
  cases fault with
  | nullCharacter => exact .unnameable place hplace (hnull rfl)
  | missing => exact .refused deed place _
  | notDirectory => exact .refused deed place _
  | present => exact .refused deed place _
  | nameTooLong => exact .refused deed place _
  | outside dir => exact .refused deed place _

theorem ensureDirectory_error (h : on site (ensureDirectory path) = (.error f, site')) :
    ∃ fault, f = .ofDeed .createDirectory path fault ∧
      (fault = .nullCharacter → path.parts.any (·.toList.contains '\x00')) := by
  rw [on_ensureDirectory] at h
  cases ho : (site.tree.ensureDirectory path).2 with
  | ok u =>
    rw [ho] at h
    cases h
  | error fault =>
    rw [ho] at h
    cases h
    refine ⟨fault, rfl, ?_⟩
    rintro rfl
    exact Tree.ensureDirectory_null ho

theorem failsBy_ensureDirectory (path : Path) :
    FailsBy (fun t => Failure.OnPath t path) (ensureDirectory path) := by
  intro site f site' h
  obtain ⟨fault, rfl, hnull⟩ := ensureDirectory_error h
  exact onPath_of_ofDeed (.inl rfl) fun hf => Tree.locate_null.2 (hnull hf)

/-- The directory of a file is refused like the file. -/
theorem failsBy_ensureParent (path : Path) :
    FailsBy (fun t => Failure.OnPath t path) (ensureDirectory path.parent) := by
  intro site f site' h
  obtain ⟨fault, rfl, hnull⟩ := ensureDirectory_error h
  refine onPath_of_ofDeed (.inr rfl) fun hf => Tree.locate_null.2 ?_
  obtain ⟨part, hmem, hpart⟩ := List.any_eq_true.1 (hnull hf)
  exact List.any_eq_true.2 ⟨part, List.dropLast_subset path.parts hmem, hpart⟩

theorem failsBy_writeFile (path : Path) (content : String) :
    FailsBy (fun t => Failure.OnPath t path) (writeFile path content) := by
  intro site f site' h
  unfold writeFile at h
  rw [on_bind, on_tree] at h
  rcases on_bind_error.1 h with h | ⟨there, mid, hask, h⟩
  · rw [on_ask] at h
    cases hex : site.tree.exists? path with
    | ok answer =>
      rw [hex] at h
      cases h
    | error fault =>
      rw [hex] at h
      cases h
      obtain ⟨rfl, hl⟩ := Tree.probe_error hex
      exact .tooLong hl
  · split at h
    · cases h
    · rcases on_bind_error.1 h with h | ⟨u, mid', -, h⟩
      · exact failsBy_ensureParent path h
      · rw [on_bind, on_tree] at h
        dsimp only at h
        split at h
        · cases h
        · cases h
        · rename_i fault hne hc
          cases h
          refine onPath_of_ofDeed (.inl rfl) ?_
          rintro rfl
          exact Tree.create_null hc

theorem failsBy_patchFile (path : Path) (p : Patch) :
    FailsBy (fun t => Failure.OnPath t path) (patchFile path p) := by
  intro site f site' h
  rw [on_patchFile] at h
  rcases hf : fileOctets? site.tree path with fault | _ | ⟨place, octets⟩
  · rw [hf] at h
    cases h
    obtain ⟨rfl, hlong⟩ := fileOctets?_error hf
    exact .tooLong hlong
  · rw [hf] at h
    cases h
  · rw [hf] at h
    cases h

theorem failsBy_render (store : Template.Store) (name : String) (bindings : Bindings) :
    FailsBy (fun t f => store.render t name bindings = .error f) (render store name bindings) := by
  intro site f site' h
  rw [Generate.on_render] at h
  obtain ⟨hr, rfl⟩ := Prod.ext_iff.1 h
  exact hr

end Run

namespace Template.Store

variable {store : Store} {t : Tree} {name : String} {bindings : Bindings} {f : Failure}

/-- Rendering fails with a fault of the template, unless a file of templates is no text, or a key
is looked up in vain. -/
theorem render_error (h : store.render t name bindings = .error f) :
    (∃ fault, f = .template name fault) ∨
      (∃ dir parts octets fault, store = .directory dir ∧ nameParts? name = some parts ∧
        source? t dir parts = some octets ∧ Text.Utf8.decode octets = .error fault ∧
        f = .undecodable fault) ∨
      ∃ template, store.load t name = .ok template ∧
        template.render .off bindings = .error (.misuse .noKeyZero) ∧ f = .misuse .noKeyZero := by
  unfold render at h
  cases hl : store.load t name with
  | ok template =>
    rw [hl] at h
    change (template.render .off bindings).mapError (Failure.ofTemplate name) = .error f at h
    cases hr : template.render .off bindings with
    | ok text =>
      rw [hr] at h
      cases h
    | error fault =>
      rw [hr] at h
      cases h
      by_cases hkey : fault = .misuse .noKeyZero
      · subst hkey
        exact .inr (.inr ⟨template, rfl, hr, rfl⟩)
      · exact .inl ⟨fault, Failure.ofTemplate_of_ne hkey⟩
  | error f' =>
    rw [hl] at h
    cases h
    unfold load at hl
    dsimp only at hl
    split at hl
    · cases hl
      exact .inl ⟨_, rfl⟩
    · rename_i parts hparts
      split at hl
      · split at hl <;> cases hl
        exact .inl ⟨_, rfl⟩
      · rename_i dir
        split at hl
        · cases hl
          exact .inl ⟨_, rfl⟩
        · rename_i octets hsource
          split at hl
          · rename_i fault hdecode
            cases hl
            exact .inr (.inl ⟨dir, parts, octets, fault, rfl, hparts, hsource, hdecode, rfl⟩)
          · rename_i cs hdecode
            cases ht : Template.ofText (.ofList cs) with
            | ok template =>
              rw [ht] at hl
              cases hl
            | error fault =>
              rw [ht] at hl
              cases hl
              exact .inl ⟨_, rfl⟩

/-- The fault of a template is told under the name that was asked for. -/
theorem name_of_render {other : String} {fault : Template.Fault}
    (h : store.render t name bindings = .error (.template other fault)) : other = name := by
  rcases render_error h with ⟨fault', hf⟩ | ⟨_, _, _, _, -, -, -, -, hf⟩ | ⟨_, -, -, hf⟩
  · cases hf
    rfl
  · cases hf
  · cases hf

end Template.Store

/-- A sheet is worked out, or the blueprint is at fault. -/
theorem Run.failsBy_sheet (b : Blueprint) :
    FailsBy (fun _ f => Sheet.ofBlueprint b = .error f) (sheet b) :=
  (failsBy_ofExcept fun _ h _ => h).bind fun s =>
    (failsBy_notifyAll s.notices).bind fun _ => failsBy_pure s

/-- A failure to blame on an output: on its template, or on its path. -/
def Output.ToBlame (store : Template.Store) (bindings : Bindings) (o : Output) (t : Tree)
    (f : Failure) : Prop :=
  store.render t o.template bindings = .error f ∨ Failure.OnPath t o.path f

namespace Generate

open Run

theorem failsBy_produce (store : Template.Store) (bindings : Bindings) (o : Output) :
    FailsBy (Output.ToBlame store bindings o) (produce store bindings o) :=
  ((failsBy_render store o.template bindings).mono fun _ _ => .inl).bind fun text =>
    (failsBy_writeFile o.path text).mono fun _ _ => .inr

theorem failsBy_ensureDirectories (dirs : List Path) :
    FailsBy (fun t f => ∃ d ∈ dirs, Failure.OnPath t d f) (dirs.forM ensureDirectory) :=
  .forM fun d hd => (failsBy_ensureDirectory d).mono fun _ _ hf => ⟨d, hd, hf⟩

theorem failsBy_addBuildDependencies (project : Project) :
    FailsBy (fun t => Failure.OnPath t (buildFile project)) (addBuildDependencies project) :=
  (failsBy_patchFile _ _).bind fun _ => (failsBy_patchFile _ _).bind fun _ => failsBy_pure _

theorem failsBy_addRepositoryMethods (project : Project) (package repository entity : String) :
    FailsBy (fun t => Failure.OnPath t (project.sourcePath package repository))
      (addRepositoryMethods project package repository entity) := by
  unfold addRepositoryMethods addOptionalImport
  refine (failsBy_patchFile _ _).bind fun find => ?_
  split
  · exact failsBy_pure _
  · refine (failsBy_patchFile _ _).bind fun _ => FailsBy.bind ?_ fun _ => failsBy_pure _
    refine (failsBy_patchFile _ _).bind fun first => ?_
    split
    · exact failsBy_patchFile _ _
    · exact failsBy_pure _

theorem failsBy_packageText (v : Value) :
    FailsBy (fun _ f => f = .misuse (.noAttribute v.kind "split") ∧ ∀ s, v ≠ .text s)
      (packageText v) := by
  unfold packageText
  split
  · exact failsBy_pure _
  · rename_i hne
    exact failsBy_throw fun _ => ⟨rfl, hne⟩

end Generate

/-- The paths that carrying a sheet out asks for, or makes something at. -/
def Sheet.paths (project : Project) (s : Sheet) : List Path :=
  Generate.directories (s.placed project) s
    ++ (Generate.outputs (s.placed project) s).map Output.path ++ s.patchable project

/-- What a sheet that cannot be carried out is to blame on. -/
inductive Sheet.ToBlame (store : Template.Store) (project : Project) (s : Sheet) (t : Tree) :
    Failure → Prop where
  | path {p : Path} {f : Failure} : p ∈ s.paths project → Failure.OnPath t p f →
    ToBlame store project s t f
  | template {o : Output} {f : Failure} : o ∈ Generate.outputs (s.placed project) s →
    store.render t o.template s.bindings = .error f → ToBlame store project s t f
  | package {security : SecuritySheet} {f : Failure} : s = .security security →
    (∀ text, security.userRepositoryPackage ≠ .text text) → ToBlame store project s t f

namespace Generate

open Run

theorem failsBy_write (store : Template.Store) (project : Project) (s : Sheet) :
    FailsBy (s.ToBlame store project) (write store (s.placed project) s) := by
  refine FailsBy.bind ?_ fun _ => FailsBy.mapM fun o ho => ?_
  · refine (failsBy_ensureDirectories _).mono fun t f => ?_
    rintro ⟨d, hd, hf⟩
    exact .path (List.mem_append_left _ (List.mem_append_left _ hd)) hf
  · refine (failsBy_produce store s.bindings o).mono fun t f => ?_
    rintro (hf | hf)
    · exact .template ho hf
    · exact .path (List.mem_append_left _ (List.mem_append_right _ (List.mem_map_of_mem ho))) hf

theorem failsBy_carryOut (store : Template.Store) (project : Project) (s : Sheet) :
    FailsBy (s.ToBlame store project) (carryOut store project s) := by
  unfold carryOut
  split
  · rename_i s
    have hpatch : ∀ {p t f}, p ∈ patchable project s → Failure.OnPath t p f →
        Sheet.ToBlame store project (.security s) t f := fun hp hf =>
      .path (List.mem_append_right _ hp) hf
    rw [securityBundle_eq]
    refine FailsBy.bind ?_ fun _ => failsBy_pure _
    refine (failsBy_write store project (.security s)).bind fun written => ?_
    refine ((failsBy_addBuildDependencies project).mono fun t f hf =>
      hpatch (by simp [patchable]) hf).bind fun libraries => ?_
    refine ((failsBy_packageText _).mono fun t f hf => .package rfl hf.2).bind_of
      fun {_ package _} h => ?_
    obtain ⟨hv, -⟩ := packageText_ok h
    refine ((failsBy_addRepositoryMethods project package _ _).mono fun t f hf =>
      hpatch (by simp [patchable, hv]) hf).bind fun _ => failsBy_pure _
  · refine (failsBy_notifyAll _).bind fun _ => ?_
    exact (failsBy_write store project s).bind fun _ => failsBy_pure _

end Generate

end Groundwork
