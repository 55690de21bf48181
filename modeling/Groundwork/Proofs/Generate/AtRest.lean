import Groundwork.Proofs.Generate.Operation
import Groundwork.Proofs.Generate.Patches
import Groundwork.Proofs.Generate.Security
import Groundwork.Proofs.Tree.Ending

/-!
# Generators at rest

A sheet is at rest on a tree when all it asks for stands and every patch that comes with it is
settled. A generator that succeeds leaves its sheet at rest, and on a tree where it is at rest the
generator succeeds once more and changes nothing.
-/

namespace Groundwork

namespace Run

variable {α β : Type} {other path : Path} {a b c : Tree} {p : Patch}

/-- Only what is read at one path may differ, and paths lead where they led. -/
structure SameBut (other : Path) (a b : Tree) : Prop where
  locate : b.locate = a.locate
  text : ∀ path, (∀ place, a.locate other = .ok place → a.locate path ≠ .ok place) →
    fileText? b path = fileText? a path

theorem SameBut.refl (other : Path) (t : Tree) : SameBut other t t :=
  ⟨rfl, fun _ _ => rfl⟩

theorem SameBut.trans (hab : SameBut other a b) (hbc : SameBut other b c) : SameBut other a c where
  locate := hbc.locate.trans hab.locate
  text path hapart := by
    have hapart' := hapart
    rw [← hab.locate] at hapart'
    rw [hbc.text path hapart', hab.text path hapart]

theorem SameBut.settledAt (h : SameBut other a b)
    (hapart : ∀ place, a.locate other = .ok place → a.locate path ≠ .ok place)
    (hs : SettledAt a path p) : SettledAt b path p := by
  obtain ⟨found, hf, hdone⟩ := hs
  exact ⟨found, by rw [h.text path hapart, hf], hdone⟩

/-- However the run ends, only the file at one path may have changed. -/
def Confined (other : Path) (run : Run α) : Prop :=
  ∀ site : Site, SameBut other site.tree (on site run).2.tree

theorem confined_pure (other : Path) (a : α) : Confined other (pure a : Run α) :=
  fun site => .refl other site.tree

theorem Confined.bind {x : Run α} {f : α → Run β} (hx : Confined other x)
    (hf : ∀ a, Confined other (f a)) : Confined other (x >>= f) := by
  intro site
  rw [on_bind]
  have h := hx site
  rcases hon : on site x with ⟨e | a, mid⟩
  · rw [hon] at h
    exact h
  · rw [hon] at h
    exact h.trans (hf a mid)

theorem confined_patchFile (other : Path) (p : Patch) : Confined other (patchFile other p) := by
  intro site
  rcases h : on site (patchFile other p) with ⟨f | r, site'⟩
  · rw [on_patchFile] at h
    split at h
    · cases h
      exact .refl _ _
    · cases h
    · cases h
  · have hlocate : site'.tree.locate = site.tree.locate := by
      rcases patchFile_ok h with ⟨-, -, ht⟩ | ⟨-, -, place, octets, octets', -, -, ht⟩
      · rw [ht]
      · funext q
        rw [ht, Tree.locate_replace]
    exact ⟨hlocate, fun path hapart => (patchFile_elsewhere h hapart).1⟩

/-- A file that was created is read as it was written, with line ends of one kind. -/
theorem fileText?_of_created {site site' : Site} {content : String}
    (h : on site (writeFile path content) = (.ok ⟨path, .created⟩, site')) :
    fileText? site'.tree path
      = .ok (some (some (.ofList (Text.unifyLineEnds content.toList)))) := by
  rcases writeFile_ok h with ⟨hstatus, -⟩ | ⟨-, mid, place, vacant, -, hl, ht⟩
  · cases hstatus
  · rw [ht]
    exact fileText?_eq_some.2 ⟨place, _, (Tree.grows_add vacant).locate hl,
      by rw [Tree.node?_add, if_pos rfl], readText?_encode content⟩

/-- A file that was created without returns is read as it was written. -/
theorem read_of_created {site : Site} {content : String}
    (hstatus : (on site (writeFile path content)).1.toOption.map Written.status = some .created)
    (hreturn : '\r' ∉ content.toList) :
    fileText? (on site (writeFile path content)).2.tree path = .ok (some (some content)) := by
  obtain ⟨⟨target, status⟩, hok, rfl⟩ := Option.map_eq_some_iff.1 hstatus
  have hwrite : on site (writeFile path content) =
      (.ok ⟨target, .created⟩, (on site (writeFile path content)).2) :=
    Prod.ext (ok_of_toOption hok) rfl
  obtain rfl : target = path := path_of_writeFile hwrite
  rw [fileText?_of_created hwrite, Text.unifyLineEnds_of_not_mem hreturn, String.ofList_toList]

end Run

namespace Generate

open Run

variable {site site' : Site} {project : Project} {path : Path} {r : Patched} {rs : List Patched}
  {package repository entity : String} {x : String}

/-- A file that was created holds the template of an output with its path, filled in. -/
theorem text_of_created {store : Template.Store} {bindings : Bindings} {os : List Output}
    {ws : List Written} (h : on site (os.mapM (produce store bindings)) = (.ok ws, site'))
    (hw : ⟨path, .created⟩ ∈ ws) :
    ∃ o ∈ os, o.path = path ∧ ∃ t text, store.render t o.template bindings = .ok text ∧
      fileText? site'.tree path = .ok (some (some (.ofList (Text.unifyLineEnds text.toList)))) := by
  induction os generalizing site ws with
  | nil =>
    cases h
    cases hw
  | cons o rest ih =>
    rw [List.mapM_cons] at h
    obtain ⟨w, mid, hproduce, h⟩ := on_bind_ok.1 h
    obtain ⟨ws', mid', hrest, h⟩ := on_bind_ok.1 h
    cases h
    rcases List.mem_cons.1 hw with rfl | hw
    · obtain ⟨text, hrender, hwrite⟩ := produce_ok hproduce
      obtain rfl : path = o.path := path_of_writeFile hwrite
      have hgrows := (Keeps.mapM (keeps_produce store bindings) rest).grows hrest
      exact ⟨o, List.mem_cons_self, rfl, _, text, hrender,
        fileText?_of_grows hgrows (fileText?_of_created hwrite)⟩
    · obtain ⟨o', ho', hpath, hfound⟩ := ih hrest hw
      exact ⟨o', List.mem_cons_of_mem o ho', hpath, hfound⟩

/-- The patches of the build file act one after the other on its text. -/
theorem addBuildDependencies_text
    (h : on site (addBuildDependencies project) = (.ok rs, site')) :
    ∃ found, fileText? site.tree (buildFile project) = .ok found ∧
      fileText? site'.tree (buildFile project) = .ok (found.map
        (Option.map fun x => tokenLibraryPatch.after (starterPatch.after x))) := by
  obtain ⟨starter, mid, hs, h⟩ := on_bind_ok.1 h
  obtain ⟨tokens, mid', ht, h⟩ := on_bind_ok.1 h
  cases h
  obtain ⟨found, hfound, -, hmid⟩ := patchFile_text hs
  obtain ⟨found', hfound', -, hend⟩ := patchFile_text ht
  obtain rfl := Except.ok.inj (hfound'.symm.trans hmid)
  refine ⟨found, hfound, hend.trans ?_⟩
  rcases found with _ | _ | x <;> rfl

/-- Both patches of the build file are settled after they were made. -/
theorem buildFile_settled (h : on site (addBuildDependencies project) = (.ok rs, site')) :
    ∀ p ∈ [starterPatch, tokenLibraryPatch], SettledAt site'.tree (buildFile project) p := by
  obtain ⟨found, -, hend⟩ := addBuildDependencies_text h
  have hdone : ∀ z, found.map (Option.map fun x => tokenLibraryPatch.after (starterPatch.after x))
      = some (some z) → starterPatch.Done z ∧ tokenLibraryPatch.Done z := by
    intro z hz
    rcases found with _ | _ | x
    · cases hz
    · cases hz
    · obtain rfl := Option.some.inj (Option.some.inj hz)
      exact ⟨starterPatch_done_after (starterPatch_done x), tokenLibraryPatch_done _⟩
  intro p hp
  simp only [List.mem_cons, List.not_mem_nil, or_false] at hp
  rcases hp with rfl | rfl
  · exact ⟨_, hend, fun z hz => (hdone z hz).1⟩
  · exact ⟨_, hend, fun z hz => (hdone z hz).2⟩

theorem on_addOptionalImport (hx : fileText? site.tree path = .ok (some (some x))) :
    ∃ site', on site (addOptionalImport path) = (.ok ⟨path, importStatus x⟩, site') ∧
      fileText? site'.tree path = .ok (some (some (afterImports x))) := by
  obtain ⟨mid, hfirst, hmid⟩ := on_patchFile_text hx importPatch
  unfold addOptionalImport afterImports importStatus
  rw [on_bind, hfirst]
  dsimp only
  by_cases hs : importPatch.statusOn (some (some x)) = .missingAnchor
  · rw [if_pos hs, if_pos hs, if_pos hs]
    exact on_patchFile_text hmid firstImportPatch
  · rw [if_neg hs, if_neg hs, if_neg hs]
    exact ⟨mid, rfl, hmid⟩

/-- The look-ups act one after the other on the text of the user repository. -/
theorem on_addRepositoryMethods
    (hx : fileText? site.tree (project.sourcePath package repository) = .ok (some (some x)))
    (entity : String) :
    let y := (findPatch entity).after x
    let path := project.sourcePath package repository
    ∃ site', on site (addRepositoryMethods project package repository entity)
        = (.ok [⟨path, (findPatch entity).statusOn (some (some x))⟩,
            ⟨path, existsPatch.statusOn (some (some y))⟩,
            ⟨path, importStatus (existsPatch.after y)⟩], site') ∧
      fileText? site'.tree path = .ok (some (some (afterImports (existsPatch.after y)))) := by
  intro y path
  obtain ⟨mid, hfind, hmid⟩ := on_patchFile_text hx (findPatch entity)
  obtain ⟨mid', hexists, hmid'⟩ := on_patchFile_text hmid existsPatch
  obtain ⟨site', himport, hend⟩ := on_addOptionalImport hmid'
  -- with a text the status is neither of the two that end it
  have hgoes : ¬ ((findPatch entity).statusOn (some (some x)) = .missingTarget ||
      (findPatch entity).statusOn (some (some x)) = .unreadable) = true := by
    dsimp only [Patch.statusOn]
    split
    · simp
    · split <;> simp
  refine ⟨site', ?_, hend⟩
  unfold addRepositoryMethods
  rw [on_bind, hfind]
  dsimp only
  rw [if_neg hgoes, on_bind, hexists]
  dsimp only
  rw [on_bind, himport]
  rfl

theorem addRepositoryMethods_text
    (hx : fileText? site.tree (project.sourcePath package repository) = .ok (some (some x)))
    (h : on site (addRepositoryMethods project package repository entity) = (.ok rs, site')) :
    fileText? site'.tree (project.sourcePath package repository)
      = .ok (some (some (afterImports (existsPatch.after ((findPatch entity).after x))))) := by
  obtain ⟨site'', hon, htext⟩ := on_addRepositoryMethods hx entity
  rw [h] at hon
  cases hon
  exact htext

/-- All patches of the user repository are settled after they were made, or after the first of
them found no text. -/
theorem repository_settled
    (h : on site (addRepositoryMethods project package repository entity) = (.ok rs, site')) :
    ∀ p ∈ lookups entity, SettledAt site'.tree (project.sourcePath package repository) p := by
  have hwhole := h
  obtain ⟨find, mid, hf, h⟩ := on_bind_ok.1 h
  obtain ⟨found, hfound, rfl, hmid⟩ := patchFile_text hf
  intro p hp
  rcases found with _ | _ | x
  case some.some =>
    refine ⟨_, addRepositoryMethods_text hfound hwhole, fun z hz => ?_⟩
    obtain rfl := Option.some.inj (Option.some.inj hz)
    exact lookups_done entity x p hp
  all_goals
    -- without a text nothing but the first look-up was tried
    cases h
    exact ⟨_, hmid, fun z hz => by cases hz⟩

theorem confined_addRepositoryMethods (project : Project) (package repository entity : String) :
    Confined (project.sourcePath package repository)
      (addRepositoryMethods project package repository entity) := by
  unfold addRepositoryMethods addOptionalImport
  refine (confined_patchFile _ _).bind fun find => ?_
  split
  · exact confined_pure _ _
  · refine (confined_patchFile _ _).bind fun _ => Confined.bind ?_ fun _ => confined_pure _ _
    refine (confined_patchFile _ _).bind fun _ => ?_
    split
    · exact confined_patchFile _ _
    · exact confined_pure _ _

theorem buildFile_endsIn (project : Project) : (buildFile project).EndsIn "pom.xml" :=
  Path.endsIn_child_self (by decide) project.root

theorem sourcePath_endsIn (hext : project.settings.sourceExtension = ".java")
    (package className : String) (sourceRoot : String := "") :
    (project.sourcePath package className sourceRoot).EndsIn ".java" := by
  refine Path.endsIn_child ?_ (by decide) _
  unfold Project.fileName
  rw [hext]
  split
  · assumption
  · exact Text.endsWith_append (by decide) className

/-- The build file is no source file. -/
theorem buildFile_apart (hext : project.settings.sourceExtension = ".java") (t : Tree)
    (place : Location) (h : t.locate (project.sourcePath package repository) = .ok place) :
    t.locate (buildFile project) ≠ .ok place :=
  Tree.locate_ne_of_unlike (sourcePath_endsIn hext package repository) (buildFile_endsIn project)
    (by decide) (by decide) (by decide) h

/-- The templates of the security classes. -/
theorem template_endsIn {s : SecuritySheet} {o : Output}
    (h : o ∈ outputs project (.security s)) : Text.endsWith o.template ".j2" := by
  have hclasses : ∀ c ∈ securityClasses, Text.endsWith c.2 ".j2" := by decide
  rcases List.mem_append.1 h with h | h
  · obtain ⟨c, hc, rfl⟩ := List.mem_map.1 h
    exact hclasses c hc
  · obtain rfl := List.mem_singleton.1 h
    show Text.endsWith "security/auth_controller.java.j2" ".j2"
    decide

theorem endsWith_of_nameParts? {name ending : String} {parts : List String}
    (h : Template.nameParts? name = some parts) (hn : Text.endsWith name ending)
    (ht : Text.Telling ending) : Text.endsWith ("/".intercalate parts) ending := by
  obtain ⟨init, last, hp, hend⟩ := Text.pieces_ending hn ht.1
  obtain ⟨hempty, hdot, -⟩ := ht.ne_special hend
  unfold Template.nameParts? at h
  dsimp only at h
  split at h
  · cases h
  · obtain rfl := Option.some.inj h
    rw [hp, List.filter_append, List.filter_cons_of_pos, List.filter_nil]
    · exact Text.endsWith_intercalate hend _
    · simp [hempty, hdot]

/-- No patch of the security classes is made to one of their templates. -/
theorem apart_patchable (hext : project.settings.sourceExtension = ".java") {s : SecuritySheet}
    (store : Template.Store) (t : Tree) {o : Output} (ho : o ∈ outputs project (.security s)) :
    store.Apart o.template (patchable project s) t := by
  intro dir parts _ hparts path hpath place hl
  have htemplate : (dir.join (.ofText ("/".intercalate parts))).EndsIn ".j2" :=
    Path.endsIn_child (endsWith_of_nameParts? hparts (template_endsIn ho) (by decide)) (by decide)
      dir
  rcases List.mem_cons.1 hpath with rfl | hpath
  · exact Tree.locate_ne_of_unlike (buildFile_endsIn project) htemplate (by decide) (by decide)
      (by decide) hl
  · split at hpath
    · rename_i package _
      obtain rfl := List.mem_singleton.1 hpath
      exact Tree.locate_ne_of_unlike (sourcePath_endsIn hext package s.userRepository) htemplate
        (by decide) (by decide) (by decide) hl
    · cases hpath

/-- Every patch that comes with the security classes is settled. -/
structure PatchesSettled (project : Project) (s : SecuritySheet) (package : String) (t : Tree) :
    Prop where
  named : s.userRepositoryPackage = .text package
  libraries : ∀ p ∈ [starterPatch, tokenLibraryPatch], SettledAt t (buildFile project) p
  methods : ∀ p ∈ lookups s.userEntity,
    SettledAt t (project.sourcePath package s.userRepository) p

/-- All that a sheet asks for stands, and every patch that comes with it is settled. -/
structure AtRest (store : Template.Store) (project : Project) (s : Sheet) (t : Tree) : Prop where
  standing : Standing store (s.placed project) s t
  settled : ∀ security, s = .security security →
    ∃ package, PatchesSettled project security package t

variable {store : Template.Store} {s : Sheet} {t : Tree} {account : Account}

theorem securityBundle_ok (hext : project.settings.sourceExtension = ".java") {s : SecuritySheet}
    {result : SecurityResult}
    (h : on site (securityBundle store project s) = (.ok result, site')) :
    AtRest store project (.security s) site'.tree ∧
      result.written.map Written.path = (outputs project (.security s)).map Output.path := by
  rw [securityBundle_eq] at h
  obtain ⟨written, mid₁, hw, h⟩ := on_bind_ok.1 h
  obtain ⟨libraries, mid₂, hl, h⟩ := on_bind_ok.1 h
  obtain ⟨package, mid₃, hp, h⟩ := on_bind_ok.1 h
  obtain ⟨methods, mid₄, hm, h⟩ := on_bind_ok.1 h
  cases h
  obtain ⟨hpackage, rfl⟩ := packageText_ok hp
  obtain ⟨hpaths, -, hstanding⟩ := write_ok hw
  refine ⟨⟨?_, ?_⟩, hpaths⟩
  · have hrepository : [project.sourcePath package s.userRepository] ⊆ patchable project s := by
      simp [patchable, hpackage]
    have hbuild : [buildFile project] ⊆ patchable project s := by
      simp [patchable]
    have hgrows := (((keeps_addBuildDependencies project).mono hbuild).grows hl).trans
      (((keeps_addRepositoryMethods project package _ _).mono hrepository).grows hm)
    exact hstanding.grows hgrows fun o ho => apart_patchable hext store _ ho
  · rintro _ ⟨⟩
    refine ⟨package, hpackage, fun p hp => ?_, repository_settled hm⟩
    have hsame := confined_addRepositoryMethods project package s.userRepository s.userEntity mid₃
    rw [hm] at hsame
    exact hsame.settledAt (buildFile_apart hext mid₃.tree) (buildFile_settled hl p hp)

/-- A generator that succeeds leaves its sheet at rest. -/
theorem carryOut_ok (hext : project.settings.sourceExtension = ".java")
    (h : on site (carryOut store project s) = (.ok account, site')) :
    AtRest store project s site'.tree ∧
      account.written.map Written.path = (outputs (s.placed project) s).map Output.path := by
  unfold carryOut at h
  split at h
  · obtain ⟨result, mid, hr, h⟩ := on_bind_ok.1 h
    cases h
    exact securityBundle_ok hext hr
  · rename_i hne
    obtain ⟨u, mid, hn, h⟩ := on_bind_ok.1 h
    obtain ⟨written, mid', hw, h⟩ := on_bind_ok.1 h
    cases h
    obtain ⟨hpaths, -, hstanding⟩ := write_ok hw
    exact ⟨⟨hstanding, fun security hs => absurd hs (hne security)⟩, hpaths⟩

theorem rests_addBuildDependencies
    (h : ∀ p ∈ [starterPatch, tokenLibraryPatch], SettledAt t (buildFile project) p) :
    ∃ rs, RestsAt t (addBuildDependencies project) rs ∧ ∀ r ∈ rs, r.isPatched = false := by
  obtain ⟨status, hs, hstarter⟩ := rests_patchFile (h starterPatch (by simp))
  obtain ⟨status', hs', htokens⟩ := rests_patchFile (h tokenLibraryPatch (by simp))
  refine ⟨_, hstarter.bind (htokens.bind (rests_pure t _)), ?_⟩
  simp [Patched.isPatched, hs, hs']

theorem rests_addRepositoryMethods
    (h : ∀ p ∈ lookups entity, SettledAt t (project.sourcePath package repository) p) :
    ∃ rs, RestsAt t (addRepositoryMethods project package repository entity) rs ∧
      ∀ r ∈ rs, r.isPatched = false := by
  obtain ⟨status₁, hs₁, hfind⟩ := rests_patchFile (h (findPatch entity) (by simp [lookups]))
  obtain ⟨status₂, hs₂, hpresent⟩ := rests_patchFile (h existsPatch (by simp [lookups]))
  obtain ⟨status₃, hs₃, himport⟩ := rests_patchFile (h importPatch (by simp [lookups]))
  obtain ⟨status₄, hs₄, hfirst⟩ := rests_patchFile (h firstImportPatch (by simp [lookups]))
  have hoptional : ∃ status, status ≠ .patched ∧
      RestsAt t (addOptionalImport (project.sourcePath package repository))
        ⟨project.sourcePath package repository, status⟩ := by
    by_cases hmissing : status₃ = .missingAnchor
    · refine ⟨status₄, hs₄, himport.bind ?_⟩
      rw [if_pos hmissing]
      exact hfirst
    · refine ⟨status₃, hs₃, himport.bind ?_⟩
      rw [if_neg hmissing]
      exact rests_pure t _
  obtain ⟨status₅, hs₅, hoptional⟩ := hoptional
  by_cases hstop : status₁ = .missingTarget ∨ status₁ = .unreadable
  · refine ⟨[⟨project.sourcePath package repository, status₁⟩], hfind.bind ?_, ?_⟩
    · rw [if_pos (by simpa using hstop)]
      exact rests_pure t _
    · simp [Patched.isPatched, hs₁]
  · refine ⟨[⟨project.sourcePath package repository, status₁⟩,
      ⟨project.sourcePath package repository, status₂⟩,
      ⟨project.sourcePath package repository, status₅⟩], hfind.bind ?_, ?_⟩
    · rw [if_neg (by simpa using hstop)]
      exact hpresent.bind (hoptional.bind (rests_pure t _))
    · simp [Patched.isPatched, hs₁, hs₂, hs₅]

/-- Where a sheet is at rest it can be carried out once more: nothing changes, and nothing is
reported as new. -/
theorem rests_carryOut (h : AtRest store project s t) :
    ∃ account, RestsAt t (carryOut store project s) account ∧
      account.written = (outputs (s.placed project) s).map Output.left ∧
      ∀ r ∈ account.patches, r.isPatched = false := by
  have hwrite := rests_write h.standing
  unfold carryOut
  split
  · rename_i s
    obtain ⟨package, hpackage, hbuild, hlookups⟩ := h.settled s rfl
    obtain ⟨libraries, hlibraries, hlp⟩ := rests_addBuildDependencies hbuild
    obtain ⟨methods, hmethods, hmp⟩ := rests_addRepositoryMethods hlookups
    have hpt : RestsAt t (packageText s.userRepositoryPackage) package := by
      rw [hpackage]
      exact rests_pure t package
    have hbundle : RestsAt t (securityBundle store project s)
        ⟨(outputs project (.security s)).map Output.left, libraries ++ methods⟩ := by
      rw [securityBundle_eq]
      refine RestsAt.bind hwrite ?_
      refine hlibraries.bind ?_
      refine hpt.bind ?_
      exact hmethods.bind (rests_pure t _)
    refine ⟨_, hbundle.bind (rests_pure t _), rfl, fun r hr => ?_⟩
    rcases List.mem_append.1 hr with hr | hr
    · exact hlp r hr
    · exact hmp r hr
  · exact ⟨_, (rests_notifyAll t _).bind (hwrite.bind (rests_pure t _)), rfl,
      fun r hr => by cases hr⟩

end Generate

end Groundwork
