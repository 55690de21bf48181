import Groundwork.Proofs.Generate.Writing
import Groundwork.Proofs.Patch

/-!
# What the security classes change

The classes are written like all others. Besides, the build file and the user repository may be
patched, and no other file that is there; every patch that was made is reported.
-/

namespace Groundwork

namespace Generate

variable {site site' : Site} {project : Project} {path : Path} {r : Patched}
  {rs : List Patched} {package repository entity : String} {store : Template.Store}

def buildFile (project : Project) : Path :=
  project.root.child "pom.xml"

theorem truthful_of_addBuildDependencies
    (h : Run.on site (addBuildDependencies project) = (.ok rs, site')) :
    Truthful [] rs site.tree site'.tree := by
  obtain ⟨starter, mid, hs, h⟩ := Run.on_bind_ok.1 h
  obtain ⟨tokens, mid', ht, h⟩ := Run.on_bind_ok.1 h
  cases h
  exact (Run.truthful_of_patchFile hs).append (Run.truthful_of_patchFile ht)
    ((Run.keeps_patchFile _ _).grows hs) ((Run.keeps_patchFile _ _).grows ht)

theorem keeps_addBuildDependencies (project : Project) :
    Run.Keeps [buildFile project] (addBuildDependencies project) :=
  (Run.keeps_patchFile _ _).bind fun _ => (Run.keeps_patchFile _ _).bind fun _ =>
    Run.keeps_pure _ _

theorem keeps_addOptionalImport (path : Path) : Run.Keeps [path] (addOptionalImport path) := by
  unfold addOptionalImport
  refine (Run.keeps_patchFile path importPatch).bind fun r => ?_
  split
  · exact Run.keeps_patchFile path firstImportPatch
  · exact Run.keeps_pure _ r

/-- A patch without its anchor changes nothing, so the report of the second attempt is enough. -/
theorem truthful_of_addOptionalImport
    (h : Run.on site (addOptionalImport path) = (.ok r, site')) :
    Truthful [] [r] site.tree site'.tree := by
  obtain ⟨first, mid, hf, h⟩ := Run.on_bind_ok.1 h
  split at h
  · rename_i hs
    have hmid : mid.tree = site.tree := by
      rcases Run.patchFile_ok hf with ⟨-, -, ht⟩ | ⟨-, hp, -⟩
      · exact ht
      · rw [Patched.isPatched, hs] at hp
        cases hp
    rw [← hmid]
    exact Run.truthful_of_patchFile h
  · cases h
    exact Run.truthful_of_patchFile hf

theorem keeps_addRepositoryMethods (project : Project) (package repository entity : String) :
    Run.Keeps [project.sourcePath package repository]
      (addRepositoryMethods project package repository entity) := by
  unfold addRepositoryMethods
  refine (Run.keeps_patchFile _ _).bind fun find => ?_
  split
  · exact Run.keeps_pure _ _
  · exact (Run.keeps_patchFile _ _).bind fun _ => (keeps_addOptionalImport _).bind fun _ =>
      Run.keeps_pure _ _

theorem truthful_of_addRepositoryMethods
    (h : Run.on site (addRepositoryMethods project package repository entity) = (.ok rs, site')) :
    Truthful [] rs site.tree site'.tree := by
  obtain ⟨find, mid, hf, h⟩ := Run.on_bind_ok.1 h
  have hfind := Run.truthful_of_patchFile hf
  split at h
  · cases h
    exact hfind
  · obtain ⟨present, mid', hp, h⟩ := Run.on_bind_ok.1 h
    obtain ⟨optional, mid'', ho, h⟩ := Run.on_bind_ok.1 h
    cases h
    have hpresent := (Run.truthful_of_patchFile hp).append (truthful_of_addOptionalImport ho)
      ((Run.keeps_patchFile _ _).grows hp) ((keeps_addOptionalImport _).grows ho)
    exact hfind.append hpresent ((Run.keeps_patchFile _ _).grows hf)
      (((Run.keeps_patchFile _ _).bind fun _ => keeps_addOptionalImport _).grows
        (Run.on_bind_ok.2 ⟨present, mid', hp, ho⟩))

theorem keeps_packageText (v : Value) : Run.Keeps [] (packageText v) := by
  unfold packageText
  split
  · exact Run.keeps_pure _ _
  · exact Run.keeps_throw _ _

theorem packageText_ok {v : Value} (h : Run.on site (packageText v) = (.ok package, site')) :
    v = .text package ∧ site' = site := by
  unfold packageText at h
  split at h
  · cases h
    exact ⟨rfl, rfl⟩
  · cases h

/-- The files that the security classes of a sheet may change. -/
def patchable (project : Project) (s : SecuritySheet) : List Path :=
  buildFile project :: match s.userRepositoryPackage with
    | .text package => [project.sourcePath package s.userRepository]
    | _ => []

theorem keeps_securityBundle (store : Template.Store) (project : Project) (s : SecuritySheet) :
    Run.Keeps (patchable project s) (securityBundle store project s) := by
  have hbuild : [buildFile project] ⊆ patchable project s := by
    simp [patchable]
  rw [securityBundle_eq]
  refine ((keeps_write store project _).mono (List.nil_subset _)).bind fun written => ?_
  refine ((keeps_addBuildDependencies project).mono hbuild).bind fun libraries => ?_
  refine ((keeps_packageText _).mono (List.nil_subset _)).bind_of fun {_ package _} h => ?_
  obtain ⟨hv, -⟩ := packageText_ok h
  have hrepository : [project.sourcePath package s.userRepository] ⊆ patchable project s := by
    simp [patchable, hv]
  exact ((keeps_addRepositoryMethods project package _ _).mono hrepository).bind fun _ =>
    Run.keeps_pure _ _

theorem truthful_of_securityBundle {s : SecuritySheet} {result : SecurityResult}
    (h : Run.on site (securityBundle store project s) = (.ok result, site')) :
    Truthful result.written result.patches site.tree site'.tree := by
  rw [securityBundle_eq] at h
  obtain ⟨written, mid₁, hw, h⟩ := Run.on_bind_ok.1 h
  obtain ⟨libraries, mid₂, hl, h⟩ := Run.on_bind_ok.1 h
  obtain ⟨package, mid₃, hp, h⟩ := Run.on_bind_ok.1 h
  obtain ⟨methods, mid₄, hm, h⟩ := Run.on_bind_ok.1 h
  cases h
  obtain ⟨-, rfl⟩ := packageText_ok hp
  obtain ⟨-, hwritten, -⟩ := write_ok hw
  have hwrites := (keeps_write store project (.security s)).grows hw
  have hlibraries := (keeps_addBuildDependencies project).grows hl
  have hmethods := (keeps_addRepositoryMethods project package _ _).grows hm
  have hearly := hwritten.append (truthful_of_addBuildDependencies hl) hwrites hlibraries
  have hall := hearly.append (truthful_of_addRepositoryMethods hm)
    ((hwrites.mono (List.nil_subset _)).trans hlibraries) hmethods
  simpa using hall

theorem path_of_patchFile {p : Patch} (h : Run.on site (Run.patchFile path p) = (.ok r, site')) :
    r.path = path := by
  rcases Run.patchFile_ok h with ⟨hpath, -⟩ | ⟨hpath, -⟩ <;> exact hpath

theorem path_of_addOptionalImport (h : Run.on site (addOptionalImport path) = (.ok r, site')) :
    r.path = path := by
  obtain ⟨first, mid, hf, h⟩ := Run.on_bind_ok.1 h
  split at h
  · exact path_of_patchFile h
  · cases h
    exact path_of_patchFile hf

theorem paths_of_addBuildDependencies
    (h : Run.on site (addBuildDependencies project) = (.ok rs, site')) :
    ∀ r ∈ rs, r.path = buildFile project := by
  obtain ⟨starter, mid, hs, h⟩ := Run.on_bind_ok.1 h
  obtain ⟨tokens, mid', ht, h⟩ := Run.on_bind_ok.1 h
  cases h
  simp [path_of_patchFile hs, path_of_patchFile ht, buildFile]

theorem paths_of_addRepositoryMethods
    (h : Run.on site (addRepositoryMethods project package repository entity) = (.ok rs, site')) :
    rs ≠ [] ∧ ∀ r ∈ rs, r.path = project.sourcePath package repository := by
  obtain ⟨find, mid, hf, h⟩ := Run.on_bind_ok.1 h
  have hfind := path_of_patchFile hf
  split at h
  · cases h
    exact ⟨by simp, by simp [hfind]⟩
  · obtain ⟨present, mid', hp, h⟩ := Run.on_bind_ok.1 h
    obtain ⟨optional, mid'', ho, h⟩ := Run.on_bind_ok.1 h
    cases h
    exact ⟨by simp, by simp [hfind, path_of_patchFile hp, path_of_addOptionalImport ho]⟩

/-- The files of the patches are the build file and the user repository, which is always tried. -/
theorem paths_of_securityBundle {s : SecuritySheet} {result : SecurityResult}
    (hpackage : s.userRepositoryPackage = .text package)
    (h : Run.on site (securityBundle store project s) = (.ok result, site')) :
    (∃ r ∈ result.patches, r.path = project.sourcePath package s.userRepository) ∧
      ∀ r ∈ result.patches, r.path = buildFile project ∨
        r.path = project.sourcePath package s.userRepository := by
  rw [securityBundle_eq] at h
  obtain ⟨written, mid₁, -, h⟩ := Run.on_bind_ok.1 h
  obtain ⟨libraries, mid₂, hl, h⟩ := Run.on_bind_ok.1 h
  obtain ⟨package', mid₃, hp, h⟩ := Run.on_bind_ok.1 h
  obtain ⟨methods, mid₄, hm, h⟩ := Run.on_bind_ok.1 h
  cases h
  have hsame : package' = package := by
    rw [(packageText_ok hp).1] at hpackage
    exact Value.text.inj hpackage
  rw [hsame] at hm
  obtain ⟨hsome, hmethods⟩ := paths_of_addRepositoryMethods hm
  obtain ⟨first, hfirst⟩ := List.exists_mem_of_ne_nil _ hsome
  refine ⟨⟨first, List.mem_append_right _ hfirst, hmethods first hfirst⟩, fun r hr => ?_⟩
  rcases List.mem_append.1 hr with hr | hr
  · exact .inl (paths_of_addBuildDependencies hl r hr)
  · exact .inr (hmethods r hr)

end Generate

end Groundwork
