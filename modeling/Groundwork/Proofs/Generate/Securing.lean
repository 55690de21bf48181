import Groundwork.Proofs.Generate.Libraries
import Groundwork.Proofs.Generate.NewProject
import Groundwork.Proofs.Template.Heading

/-!
# A new project gets its libraries

A project is generated where there was no build file, and then the security classes in it. What the
values of the project say decides whether the build file has both libraries in the end.
-/

namespace Groundwork

open Text Run

namespace Generate

variable {s : ProjectSheet} {b : Blueprint} {root : Path} {project : Project}
  {store : Template.Store} {site site' : Site} {result : ProjectResult} {bundle : SecurityResult}
  {x : String}

/-- The build file is the only file of a new project at its path. -/
theorem template_of_buildFile {o : Output} (ho : o ∈ outputs ⟨root, {}⟩ (.project s))
    (hpath : o.path = buildFile ⟨root, {}⟩) : o.template = "project/pom.xml.j2" := by
  have hends : o.path.EndsIn "pom.xml" := hpath ▸ buildFile_endsIn _
  have hother : ∀ ending, o.path.EndsIn ending → ¬ Text.Unlike "pom.xml" ending :=
    fun ending h hunlike => Path.ne_of_unlike hends h hunlike rfl
  rcases List.mem_append.1 ho with ho | ho
  · simp only [List.mem_cons, List.not_mem_nil, or_false] at ho
    have hext : (⟨root, {}⟩ : Project).settings.sourceExtension = ".java" := rfl
    rcases ho with h | h | h | h
    · rw [h]
    · refine absurd (by decide) (hother ".java" ?_)
      have hmain : o.path = (⟨root, {}⟩ : Project).sourcePath s.basePackage s.mainClass := by rw [h]
      rw [hmain]
      exact sourcePath_endsIn hext _ _
    · refine absurd (by decide) (hother "application.properties" ?_)
      rw [h]
      exact Path.endsIn_child_self (by decide) _
    · refine absurd (by decide) (hother ".java" ?_)
      have htest : o.path = (⟨root, {}⟩ : Project).sourcePath s.basePackage
          (s.mainClass ++ "Tests") (⟨root, {}⟩ : Project).settings.testSourceRoot := by rw [h]
      rw [htest]
      exact sourcePath_endsIn hext _ _ _
  · have hnames : ∀ f ∈ optionalFiles, Text.Telling f.2.2 ∧ Text.Unlike "pom.xml" f.2.2 := by
      decide
    obtain ⟨f, hf, hname⟩ := List.mem_map.1 ho
    obtain ⟨htelling, hunlike⟩ := hnames f (List.mem_filter.1 hf).1
    refine absurd hunlike (hother f.2.2 ?_)
    rw [← hname]
    exact Path.endsIn_child_self htelling _

/-- The text of a build file that was just generated. -/
theorem buildFile_of_project {output : Path} (hsheet : Sheet.ofBlueprint b = .ok (.project s))
    (h : on site (Generate.project .bundled {} output b) = (.ok result, site'))
    (hnew : ⟨buildFile ⟨result.root, {}⟩, .created⟩ ∈ result.written) :
    ∃ inks, Template.Bundled.buildFile.print s.bindings = .ok inks ∧
      fileText? site'.tree (buildFile ⟨result.root, {}⟩)
        = .ok (some (some (.ofList (unifyLineEnds (inks.map Template.Ink.char))))) := by
  obtain ⟨s', mid, hsheet', -, hwrite, hroot⟩ := project_ok h
  rw [hsheet] at hsheet'
  cases hsheet'
  rw [hroot] at hnew ⊢
  obtain ⟨u, mid', -, houtputs⟩ := on_bind_ok.1 hwrite
  obtain ⟨o, ho, hpath, t, text, hrender, hread⟩ := text_of_created houtputs hnew
  rw [template_of_buildFile ho hpath] at hrender
  obtain ⟨inks, hprint, rfl⟩ := Template.Bundled.print_of_render rfl hrender
  refine ⟨inks, hprint, ?_⟩
  rwa [Template.Ink.text, String.toList_ofList] at hread

/-- The security classes change the build file by the patches alone. -/
theorem buildFile_of_security (hext : project.settings.sourceExtension = ".java")
    (hx : fileText? site.tree (buildFile project) = .ok (some (some x)))
    (h : on site (security store project b) = (.ok bundle, site')) :
    fileText? site'.tree (buildFile project)
      = .ok (some (some (tokenLibraryPatch.after (starterPatch.after x)))) := by
  unfold security at h
  split at h
  · cases h
  obtain ⟨sheet, mid, hs, h⟩ := on_bind_ok.1 h
  cases sheet with
  | security sheet =>
    dsimp only at h
    rw [securityBundle_eq] at h
    obtain ⟨written, mid₁, hwrite, h⟩ := on_bind_ok.1 h
    obtain ⟨libraries, mid₂, hlibraries, h⟩ := on_bind_ok.1 h
    obtain ⟨package, mid₃, hpackage, h⟩ := on_bind_ok.1 h
    obtain ⟨methods, mid₄, hmethods, h⟩ := on_bind_ok.1 h
    cases h
    obtain ⟨-, rfl⟩ := packageText_ok hpackage
    rw [← (Run.sheet_ok hs).2] at hx
    have hread := fileText?_of_grows ((keeps_write store project _).grows hwrite) hx
    obtain ⟨found, hfound, hpatched⟩ := addBuildDependencies_text hlibraries
    obtain rfl := Except.ok.inj (hfound.symm.trans hread)
    have hsame := confined_addRepositoryMethods project package sheet.userRepository
      sheet.userEntity mid₃
    rw [hmethods] at hsame
    rw [hsame.text _ (buildFile_apart hext _), hpatched]
    rfl
  | _ => cases h

/-- The text of the build file of a new project, and its text after the security classes. -/
theorem buildFile_of_runs {output : Path} {b' : Blueprint} {mid : Site}
    (hsheet : Sheet.ofBlueprint b = .ok (.project s))
    (htags : ∀ t ∈ s.texts, ∀ w ∈ listTags, ¬ w <:+: t.toList)
    (hproject : on site (Generate.project .bundled {} output b) = (.ok result, mid))
    (hnew : ⟨buildFile ⟨result.root, {}⟩, .created⟩ ∈ result.written)
    (hsecurity : on mid (security .bundled ⟨result.root, {}⟩ b') = (.ok bundle, site')) :
    ∃ x z, fileText? mid.tree (buildFile ⟨result.root, {}⟩) = .ok (some (some x)) ∧
      fileText? site'.tree (buildFile ⟨result.root, {}⟩) = .ok (some (some z)) ∧
      dependenciesOf x.toList = s.resolution.dependencies.map Dependency.inner ∧
      dependenciesOf z.toList = s.resolution.dependencies.map Dependency.inner
        ++ additions (.starter ∈ s.resolution.dependencies ∨
          s.Mentions "spring-boot-starter-security") (s.Mentions "jjwt") := by
  obtain ⟨inks, hprint, hx⟩ := buildFile_of_project hsheet hproject hnew
  have hz := buildFile_of_security rfl hx hsecurity
  exact ⟨_, _, hx, hz, dependencies_patched htags hprint String.toList_ofList⟩

/-- A project is generated where there was no build file, and then the security classes in it. The
dependencies of the project stay as they were, and each library comes behind them unless the file
mentions it. The build file has both libraries in the end exactly if no value of the project
mentions one by chance. Only the starter may be mentioned: where it is a dependency of the project
anyway. -/
theorem buildFile_secured_iff (output : Path) (b b' : Blueprint) (s : ProjectSheet)
    (site mid site' : Site) (result : ProjectResult) (bundle : SecurityResult)
    (hsheet : Sheet.ofBlueprint b = .ok (.project s))
    (htags : ∀ t ∈ s.texts, ∀ w ∈ listTags, ¬ w <:+: t.toList)
    (hproject : on site (Generate.project .bundled {} output b) = (.ok result, mid))
    (hnew : ⟨buildFile ⟨result.root, {}⟩, .created⟩ ∈ result.written)
    (hsecurity : on mid (security .bundled ⟨result.root, {}⟩ b') = (.ok bundle, site')) :
    ∃ x z, fileText? mid.tree (buildFile ⟨result.root, {}⟩) = .ok (some (some x)) ∧
      fileText? site'.tree (buildFile ⟨result.root, {}⟩) = .ok (some (some z)) ∧
      dependenciesOf x.toList = s.resolution.dependencies.map Dependency.inner ∧
      dependenciesOf z.toList = dependenciesOf x.toList
        ++ additions (.starter ∈ s.resolution.dependencies ∨
          s.Mentions "spring-boot-starter-security") (s.Mentions "jjwt") ∧
      (∀ inner ∈ dependenciesOf x.toList, (dependenciesOf z.toList).count inner = 1) ∧
      (Secured (dependenciesOf x.toList) (dependenciesOf z.toList) ↔
        (.starter ∈ s.resolution.dependencies ∨ ¬ s.Mentions "spring-boot-starter-security") ∧
          ¬ s.Mentions "jjwt") := by
  obtain ⟨x, z, hx, hz, hbefore, hafter⟩ :=
    buildFile_of_runs hsheet htags hproject hnew hsecurity
  have hcatalogue : ∀ d ∈ s.resolution.dependencies, d ∈ Dependency.catalogue :=
    fun d => ProjectSheet.mem_catalogue
  have hnodup : s.resolution.dependencies.Nodup := Dependency.nodup_resolve _ _
  have hlisted : .starter ∈ s.resolution.dependencies →
      decide (.starter ∈ s.resolution.dependencies ∨
        s.Mentions "spring-boot-starter-security") = true :=
    fun hmem => decide_eq_true (.inl hmem)
  refine ⟨x, z, hx, hz, hbefore, by rw [hafter, hbefore], ?_, ?_⟩
  · rw [hafter, hbefore]
    exact count_inner hcatalogue hnodup hlisted
  · rw [hafter, hbefore, secured_iff hcatalogue hnodup hlisted, decide_eq_false_iff_not,
      decide_eq_false_iff_not, not_or]
    by_cases hmem : .starter ∈ s.resolution.dependencies <;> simp [hmem]

/-- Where the classes can be written in a project with a build file and without the user repository,
all of the generator succeeds: no patch fails, whatever it finds. -/
theorem security_of_write {t : SecuritySheet} {package : String} {found : Option String}
    {mid : Site} {written : List Written} (hext : project.settings.sourceExtension = ".java")
    (hsheet : Sheet.ofBlueprint b = .ok (.security t))
    (hpackage : t.userRepositoryPackage = .text package)
    (hfound : fileText? site.tree (buildFile project) = .ok (some found))
    (hwrite : on site (do let _ ← Run.sheet b; write store project (.security t))
      = (.ok written, mid))
    (hnone : fileText? mid.tree (project.sourcePath package t.userRepository) = .ok none) :
    ∃ bundle site', on site (security store project b) = (.ok bundle, site') := by
  have hkind : ¬ b.kind ≠ .security := fun hne => hne (Sheet.kind_of_ofBlueprint hsheet).symm
  obtain ⟨sheet, mid', hs, hwrite⟩ := on_bind_ok.1 hwrite
  obtain ⟨hsame, htree⟩ := Run.sheet_ok hs
  rw [hsheet] at hsame
  cases hsame
  rw [← htree] at hfound
  have hfound' := fileText?_of_grows ((keeps_write store project _).grows hwrite) hfound
  obtain ⟨mid₁, hfirst, hread⟩ := on_patchFile_text hfound' starterPatch
  obtain ⟨mid₂, hsecond, -⟩ := on_patchFile_text hread tokenLibraryPatch
  have hapart : ∀ (t' : Tree) place, t'.locate (buildFile project) = .ok place →
      t'.locate (project.sourcePath package t.userRepository) ≠ .ok place :=
    fun t' place hpom hrepository => buildFile_apart hext t' place hrepository hpom
  have hnone₁ := (patchFile_elsewhere hfirst (hapart mid.tree)).1.trans hnone
  have hnone₂ := (patchFile_elsewhere hsecond (hapart mid₁.tree)).1.trans hnone₁
  obtain ⟨mid₃, hfind, -⟩ := on_patchFile_text hnone₂ (findPatch t.userEntity)
  have hlibraries : on mid (addBuildDependencies project)
      = (.ok [_, _], mid₂) := on_bind_ok.2 ⟨_, _, hfirst, on_bind_ok.2 ⟨_, _, hsecond, rfl⟩⟩
  have hmethods : on mid₂ (addRepositoryMethods project package t.userRepository t.userEntity)
      = (.ok [_], mid₃) := on_bind_ok.2 ⟨_, _, hfind, rfl⟩
  have hbundle : ∃ result, on mid' (securityBundle store project t) = (.ok result, mid₃) := by
    rw [securityBundle_eq, hpackage]
    exact ⟨_, on_bind_ok.2 ⟨_, _, hwrite, on_bind_ok.2 ⟨_, _, hlibraries, on_bind_ok.2
      ⟨_, _, rfl, on_bind_ok.2 ⟨_, _, hmethods, rfl⟩⟩⟩⟩⟩
  obtain ⟨result, hresult⟩ := hbundle
  refine ⟨result, mid₃, ?_⟩
  unfold security
  rw [if_neg hkind]
  exact on_bind_ok.2 ⟨_, _, hs, hresult⟩

/-- A project with nothing but a name and a package. -/
def bareProject (name : String) : Blueprint where
  kind := .project
  name := name
  package := "com.shop"

def bareSheet (name : String) : ProjectSheet where
  name := name
  basePackage := "com.shop"
  group := .text "com.shop"
  artifact := Name.slug name
  classPrefix := Name.pascal name
  bootVersion := .text "3.2.0"
  javaVersion := "17"
  dependencyNames := ["web", "jpa", "test"]
  database := .ofValue .null
  packaging := .ofValue .null
  docker := true
  ignoredFiles := true
  readme := true

theorem bare_sheet {name : String} (h : name ∈ ["Shop", "jjwt-demo"]) :
    Sheet.ofBlueprint (bareProject name) = .ok (.project (bareSheet name)) ∧
      (∀ t ∈ (bareSheet name).texts, ∀ w ∈ listTags, ¬ w <:+: t.toList) ∧
      ¬ (bareSheet name).Mentions "spring-boot-starter-security" ∧
      ((bareSheet name).Mentions "jjwt" ↔ name = "jjwt-demo") := by
  constructor
  · simp only [List.mem_cons, List.not_mem_nil, or_false] at h
    rcases h with rfl | rfl <;> rfl
  · revert name
    decide +kernel

def bareSecurity : Blueprint where
  kind := .security
  name := "Security"
  package := "com.shop.security"

def bareSecuritySheet : SecuritySheet where
  package := "com.shop.security"
  secret := .text SecuritySheet.usualSecret
  expiration := SecuritySheet.usualExpiration
  userEntity := "User"
  userPackage := .text ""
  userRepositoryPackage := .text (Package.repositoryFor "")
  cors := true

theorem bareSecurity_sheet :
    Sheet.ofBlueprint bareSecurity = .ok (.security bareSecuritySheet) := rfl

/-- The project is generated in an empty directory, and the security classes in the project. -/
theorem bare_runs {name : String} (h : name ∈ ["Shop", "jjwt-demo"]) :
    ∃ result mid bundle site',
      on ⟨.empty, []⟩ (Generate.project .bundled {} .here (bareProject name))
        = (.ok result, mid) ∧
      ⟨buildFile ⟨result.root, {}⟩, .created⟩ ∈ result.written ∧
      on mid (security .bundled ⟨result.root, {}⟩ bareSecurity) = (.ok bundle, site') := by
  have hall : ∀ name ∈ ["Shop", "jjwt-demo"],
      let run := on ⟨.empty, []⟩ (Generate.project .bundled {} .here (bareProject name))
      run.1.toOption.any fun result =>
        let project : Project := ⟨result.root, {}⟩
        let run' := on run.2 (do
          let _ ← Run.sheet bareSecurity
          write .bundled project (.security bareSecuritySheet))
        decide (⟨buildFile project, .created⟩ ∈ result.written) && run'.1.isOk &&
          decide ((fileText? run'.2.tree
            (project.sourcePath (Package.repositoryFor "") "UserRepository")).toOption
              = some none) := by
    decide +kernel
  have hname := hall name h
  dsimp only at hname
  rcases hproject : on ⟨.empty, []⟩ (Generate.project .bundled {} .here (bareProject name))
    with ⟨f | result, site⟩
  · rw [hproject] at hname
    cases hname
  rw [hproject] at hname
  change (decide _ && _ && _) = true at hname
  rw [Bool.and_eq_true, Bool.and_eq_true, decide_eq_true_eq, decide_eq_true_eq] at hname
  obtain ⟨⟨hnew, hwritten⟩, hrepository⟩ := hname
  obtain ⟨inks, -, hread⟩ := buildFile_of_project (bare_sheet h).1 hproject hnew
  rcases hwrite : on site (do
      let _ ← Run.sheet bareSecurity
      write .bundled ⟨result.root, {}⟩ (.security bareSecuritySheet)) with ⟨f | written, mid⟩
  · rw [hwrite] at hwritten
    cases hwritten
  rw [hwrite] at hrepository
  have hnone : fileText? mid.tree
      ((⟨result.root, {}⟩ : Project).sourcePath (Package.repositoryFor "") "UserRepository")
        = .ok none := by
    dsimp only at hrepository
    generalize fileText? mid.tree _ = answer at hrepository ⊢
    cases answer with
    | error f => cases hrepository
    | ok found => exact congrArg Except.ok (Option.some.inj hrepository)
  obtain ⟨bundle, site', hsecurity⟩ :=
    security_of_write rfl bareSecurity_sheet rfl hread hwrite hnone
  exact ⟨result, site, bundle, site', rfl, hnew, hsecurity⟩

/-- A shop that is generated in an empty directory gets both libraries. -/
theorem shop_buildFile_secured :
    ∃ result mid bundle site',
      on ⟨.empty, []⟩ (Generate.project .bundled {} .here (bareProject "Shop"))
        = (.ok result, mid) ∧
      on mid (security .bundled ⟨result.root, {}⟩ bareSecurity) = (.ok bundle, site') ∧
      ∃ x z, fileText? mid.tree (buildFile ⟨result.root, {}⟩) = .ok (some (some x)) ∧
        fileText? site'.tree (buildFile ⟨result.root, {}⟩) = .ok (some (some z)) ∧
        Secured (dependenciesOf x.toList) (dependenciesOf z.toList) := by
  have hmem : "Shop" ∈ ["Shop", "jjwt-demo"] := List.mem_cons_self
  obtain ⟨hsheet, htags, hstarter, htokens⟩ := bare_sheet hmem
  obtain ⟨result, mid, bundle, site', hproject, hnew, hsecurity⟩ := bare_runs hmem
  obtain ⟨x, z, hx, hz, -, -, -, hsecured⟩ :=
    buildFile_secured_iff _ _ _ _ _ _ _ _ _ hsheet htags hproject hnew hsecurity
  have hno : ¬ (bareSheet "Shop").Mentions "jjwt" := fun h => absurd (htokens.1 h) (by decide)
  exact ⟨result, mid, bundle, site', hproject, hsecurity, x, z, hx, hz,
    hsecured.2 ⟨.inr hstarter, hno⟩⟩

/-- A project that has the name of the library for tokens in its own name does not get it. -/
theorem jjwtDemo_lacks_tokenLibrary :
    ∃ result mid bundle site' z,
      on ⟨.empty, []⟩ (Generate.project .bundled {} .here (bareProject "jjwt-demo"))
        = (.ok result, mid) ∧
      ⟨buildFile ⟨result.root, {}⟩, .created⟩ ∈ result.written ∧
      on mid (security .bundled ⟨result.root, {}⟩ bareSecurity) = (.ok bundle, site') ∧
      fileText? site'.tree (buildFile ⟨result.root, {}⟩) = .ok (some (some z)) ∧
      (dependenciesOf z.toList).countP isTokenLibrary = 0 := by
  have hmem : "jjwt-demo" ∈ ["Shop", "jjwt-demo"] := .tail _ List.mem_cons_self
  obtain ⟨hsheet, htags, -, htokens⟩ := bare_sheet hmem
  obtain ⟨result, mid, bundle, site', hproject, hnew, hsecurity⟩ := bare_runs hmem
  obtain ⟨x, z, -, hz, -, hafter⟩ := buildFile_of_runs hsheet htags hproject hnew hsecurity
  refine ⟨result, mid, bundle, site', z, hproject, hnew, hsecurity, hz, ?_⟩
  have hcatalogue : ∀ d ∈ (bareSheet "jjwt-demo").resolution.dependencies,
      d ∈ Dependency.catalogue := fun d => ProjectSheet.mem_catalogue
  rw [hafter, List.countP_append, countP_isTokenLibrary hcatalogue, countP_additions,
    decide_eq_true (htokens.2 rfl), if_pos rfl]

end Generate

end Groundwork
