import Groundwork.Proofs.Generate.AtRest
import Groundwork.Proofs.Generate.Filling
import Groundwork.Proofs.Sheet
import Groundwork.Proofs.Template.Heading

/-!
# Where sources lie

The path of a source is worked out from the sheet, the package and the class in its text are printed
from bindings. Both agree for every template, so a source that a generator creates lies where its
own text says that it belongs.
-/

namespace Groundwork

open Template Template.Bundled

namespace Generate

/-- The template of the test that comes with a project, the only one for a test source. -/
def testTemplate : String := "project/test.java.j2"

/-- Where the source of a template is kept. -/
def sourceRootOf (settings : Settings) (template : String) : String :=
  if template = testTemplate then settings.testSourceRoot else ""

/-- The text of an output names the package and the class that its path is made of. -/
structure Sourced (project : Project) (s : Sheet) (o : Output) (package className : String) :
    Prop where
  path : o.path
    = project.sourcePath package className (sourceRootOf project.settings o.template)
  heading : ∃ heading, (o.template, heading) ∈ headings ∧
    s.bindings.written heading.package = package ∧
    Ink.text (heading.name.inks s.bindings) = className ∧
    ∀ n, .named n ∈ heading.name → ' ' ∉ (s.bindings.written n).toList
  no_end : '\n' ∉ package.toList

variable {project : Project} {s : Sheet} {b : Blueprint} {package className template file : String}
  {t : Tree} {place : Location}

/-- A class that is printed from a name. -/
theorem sourced_named (key name : String) (hmem : (template, ⟨key, [.named name]⟩) ∈ headings)
    (htest : template ≠ testTemplate)
    (hpackage : s.bindings.written key = package) (hname : s.bindings.written name = className)
    (hspace : ' ' ∉ className.toList) (hend : '\n' ∉ package.toList) :
    Sourced project s ⟨template, project.sourcePath package className⟩ package className where
  path := by
    dsimp only
    rw [sourceRootOf, if_neg htest]
  heading := by
    refine ⟨_, hmem, hpackage, ?_, fun n hn => ?_⟩
    · rw [← hname]
      simp [Shape.inks, Piece.inks]
    · cases List.mem_singleton.1 hn
      rwa [hname]
  no_end := hend

/-- A class whose name the template has itself. -/
theorem sourced_own (key : String) (hmem : (template, ⟨key, [.own className.toList]⟩) ∈ headings)
    (htest : template ≠ testTemplate)
    (hpackage : s.bindings.written key = package) (hend : '\n' ∉ package.toList) :
    Sourced project s ⟨template, project.sourcePath package className⟩ package className where
  path := by
    dsimp only
    rw [sourceRootOf, if_neg htest]
  heading := by
    refine ⟨_, hmem, hpackage, ?_, fun n hn => ?_⟩
    · simp [Shape.inks, Piece.inks]
    · cases List.mem_singleton.1 hn
  no_end := hend

/-- The test of a project is named after its main class. -/
theorem sourced_test {s : ProjectSheet} (hspace : ' ' ∉ s.mainClass.toList)
    (hend : '\n' ∉ s.basePackage.toList) :
    Sourced project (.project s)
      ⟨testTemplate, project.sourcePath s.basePackage (s.mainClass ++ "Tests")
        project.settings.testSourceRoot⟩
      s.basePackage (s.mainClass ++ "Tests") where
  path := by
    dsimp only
    rw [sourceRootOf, if_pos rfl]
  heading := by
    have hmem : (testTemplate,
        ⟨"base_package", [.named "main_class_name", .own "Tests".toList]⟩) ∈ headings := by
      decide +kernel
    refine ⟨_, hmem, rfl, ?_, fun n hn => ?_⟩
    · have hclass : (Sheet.project s).bindings.written "main_class_name" = s.mainClass := rfl
      simp [Shape.inks, Piece.inks, hclass]
    · have hn : n = "main_class_name" := by simpa using hn
      subst hn
      exact hspace
  no_end := hend

/-- A package of a sheet ends no line if that of its blueprint ends none. -/
theorem no_end_controllerFor (h : '\n' ∉ package.toList) :
    '\n' ∉ (Package.controllerFor package).toList := by
  intro hmem
  rcases Package.mem_swapLast hmem with hmem | hmem | hmem
  · exact h hmem
  · exact absurd hmem (by decide)
  · exact absurd hmem (by decide)

theorem no_end_basePackage {s : ProjectSheet} (hs : s.Drawn b) (h : '\n' ∉ b.package.toList) :
    '\n' ∉ s.basePackage.toList := by
  rw [hs.basePackage]
  split
  · decide
  · exact h

theorem no_space_mainClass {s : ProjectSheet} (hs : s.Drawn b) : ' ' ∉ s.mainClass.toList := by
  intro h
  exact absurd (ProjectSheet.mainClass_chars hs h) (by decide)

theorem security_mem_headings : ∀ c ∈ securityClasses,
    (c.2, ⟨"package_name", [.own c.1.toList]⟩) ∈ headings ∧ c.2 ≠ testTemplate := by
  have htest : ∀ c ∈ securityClasses, c.2 ≠ testTemplate := by decide
  intro c hc
  refine ⟨List.mem_append_right _ ?_, htest c hc⟩
  exact List.mem_map_of_mem (f := fun c : String × String =>
    (c.2, (⟨"package_name", [.own c.1.toList]⟩ : Heading))) hc

/-- A file of another name is no source. -/
theorem not_java {path : Path} {ending file : String} (hpath : path.EndsIn ending)
    (ht : Text.Telling ending) (hunlike : Text.Unlike ending ".java")
    (hl : t.locate path = .ok place) (hfile : place.getLast? = some file) :
    ¬ Text.endsWith file ".java" := by
  obtain ⟨part, hpart, hend⟩ := hpath
  have hlast := Tree.getLast?_of_locate hl hpart (ht.ne_special hend).2.2
  rw [hfile] at hlast
  cases hlast
  exact hunlike.not_both hend

/-- Every output that is a source names its package and its class. -/
theorem sourced_of_mem (hs : Sheet.ofBlueprint b = .ok s) (hend : '\n' ∉ b.package.toList)
    (hspace : b.kind ≠ .security → b.kind ≠ .project → ' ' ∉ b.title.toList) {o : Output}
    (ho : o ∈ outputs project s) (hl : t.locate o.path = .ok place)
    (hfile : place.getLast? = some file) (hjava : Text.endsWith file ".java") :
    ∃ package className, Sourced project s o package className := by
  rw [← Sheet.kind_of_ofBlueprint hs] at hspace
  cases Sheet.from_of_ok hs with
  | model =>
    cases List.mem_singleton.1 ho
    exact ⟨_, _, sourced_named "package_name" "class_name" (by decide +kernel) (by decide) rfl rfl
      (hspace (by rintro ⟨⟩) (by rintro ⟨⟩)) hend⟩
  | @controller s h =>
    obtain ⟨hname, hpackage, -⟩ := ControllerSheet.eq_of_ok h
    have htitle : ' ' ∉ s.name.toList := hname ▸ hspace (by rintro ⟨⟩) (by rintro ⟨⟩)
    cases List.mem_singleton.1 ho
    exact ⟨_, _, sourced_named "package_name" "controller_name" (by decide +kernel) (by decide) rfl rfl
      htitle (hpackage ▸ hend)⟩
  | @service s h =>
    obtain ⟨hname, hpackage, -⟩ := ServiceSheet.eq_of_ok h
    have htitle : ' ' ∉ s.name.toList := hname ▸ hspace (by rintro ⟨⟩) (by rintro ⟨⟩)
    have himplementation : ' ' ∉ s.implementation.toList := by
      rw [ServiceSheet.implementation, Name.implementation, String.toList_append, List.mem_append,
        not_or]
      exact ⟨htitle, by decide⟩
    have hpackage' : '\n' ∉ s.package.toList := hpackage ▸ hend
    rw [outputs] at ho
    split at ho
    · simp only [List.mem_cons, List.not_mem_nil, or_false] at ho
      rcases ho with rfl | rfl
      · exact ⟨_, _, sourced_named "package_name" "interface_name" (by decide +kernel) (by decide) rfl rfl
          htitle hpackage'⟩
      · exact ⟨_, _, sourced_named "package_name" "implementation_name" (by decide +kernel) (by decide) rfl
          rfl himplementation hpackage'⟩
    · cases List.mem_singleton.1 ho
      exact ⟨_, _, sourced_named "package_name" "service_name" (by decide +kernel) (by decide) rfl rfl
        htitle hpackage'⟩
  | @repository s h =>
    obtain ⟨hname, hpackage, -⟩ := RepositorySheet.eq_of_ok h
    have htitle : ' ' ∉ s.name.toList := hname ▸ hspace (by rintro ⟨⟩) (by rintro ⟨⟩)
    cases List.mem_singleton.1 ho
    exact ⟨_, _, sourced_named "package_name" "repository_name" (by decide +kernel) (by decide) rfl rfl
      htitle (hpackage ▸ hend)⟩
  | @security s h =>
    obtain ⟨hpackage, -⟩ := SecuritySheet.eq_of_ok h
    have hpackage' : '\n' ∉ s.package.toList := hpackage ▸ hend
    rcases List.mem_append.1 ho with ho | ho
    · obtain ⟨c, hc, rfl⟩ := List.mem_map.1 ho
      exact ⟨_, _, sourced_own "package_name" (security_mem_headings c hc).1
        (security_mem_headings c hc).2 rfl hpackage'⟩
    · cases List.mem_singleton.1 ho
      exact ⟨_, _, sourced_own "controller_package" (by decide +kernel) (by decide) rfl
        (no_end_controllerFor hpackage')⟩
  | @project s h =>
    have hdrawn := ProjectSheet.drawn h
    rcases List.mem_append.1 ho with ho | ho
    · simp only [List.mem_cons, List.not_mem_nil, or_false] at ho
      rcases ho with rfl | rfl | rfl | rfl
      · exact absurd hjava (not_java (Path.endsIn_child_self (by decide) _) (by decide) (by decide) hl
          hfile)
      · exact ⟨_, _, sourced_named "base_package" "main_class_name" (by decide +kernel) (by decide) rfl rfl
          (no_space_mainClass hdrawn) (no_end_basePackage hdrawn hend)⟩
      · exact absurd hjava (not_java (Path.endsIn_child_self (by decide) _) (by decide) (by decide) hl
          hfile)
      · exact ⟨_, _, sourced_test (no_space_mainClass hdrawn) (no_end_basePackage hdrawn hend)⟩
    · have hnames : ∀ f ∈ optionalFiles, Text.Unlike f.2.2 ".java" ∧ Text.Telling f.2.2 := by
        decide
      obtain ⟨f, hf, rfl⟩ := List.mem_map.1 ho
      obtain ⟨hunlike, htelling⟩ := hnames f (List.mem_filter.1 hf).1
      exact absurd hjava (not_java (Path.endsIn_child_self htelling _) htelling hunlike hl hfile)

/-- The file of a class whose name has no point ends in that name. -/
theorem sourcePath_endsIn_name (root : Path) (package : String) {className : String}
    (hpoint : '.' ∉ className.toList) (ht : Text.Telling (className ++ ".java")) :
    ((⟨root, {}⟩ : Project).sourcePath package className).EndsIn (className ++ ".java") := by
  refine Path.endsIn_child ?_ ht _
  rw [Project.fileName_of_no_point (by decide : '.' ∈ ".java".toList) hpoint]
  exact Text.endsWith_iff.2 (List.suffix_refl _)

theorem userRepository_endsIn (root : Path) (package : String) (s : SecuritySheet) :
    ((⟨root, {}⟩ : Project).sourcePath package s.userRepository).EndsIn "Repository.java" := by
  refine Path.endsIn_child ?_ (by decide) _
  have hends : Text.endsWith s.userRepository "Repository" :=
    Text.endsWith_append (by decide) s.userEntity
  have hno : ¬ Text.endsWith s.userRepository ".java" :=
    Text.Unlike.not_both (by decide) hends
  have hsplit : s.userRepository ++ ".java" = s.userEntity ++ "Repository.java" := by
    rw [SecuritySheet.userRepository, String.append_assoc]
    rfl
  rw [Project.fileName, if_neg hno, hsplit]
  exact Text.endsWith_append (by decide) s.userEntity

/-- The security classes are not among the files that are patched. -/
theorem class_unpatched {root : Path} {s : SecuritySheet} {o : Output}
    (ho : o ∈ outputs ⟨root, {}⟩ (.security s)) {e : Path} (he : e ∈ patchable ⟨root, {}⟩ s)
    (hl : t.locate o.path = .ok place) : t.locate e ≠ .ok place := by
  have hnames : ∀ name ∈ "AuthController" :: securityClasses.map Prod.fst,
      '.' ∉ name.toList ∧ Text.Telling (name ++ ".java") ∧
        Text.Unlike (name ++ ".java") "Repository.java" ∧
        Text.Unlike (name ++ ".java") "pom.xml" := by
    decide +kernel
  have hclass : ∃ name ∈ "AuthController" :: securityClasses.map Prod.fst, ∃ package,
      o.path = (⟨root, {}⟩ : Project).sourcePath package name := by
    rcases List.mem_append.1 ho with ho | ho
    · obtain ⟨c, hc, rfl⟩ := List.mem_map.1 ho
      refine ⟨c.1, List.mem_cons_of_mem _ (List.mem_map_of_mem hc), s.package, ?_⟩
      dsimp only
    · cases List.mem_singleton.1 ho
      refine ⟨"AuthController", List.mem_cons_self, s.controllerPackage, ?_⟩
      dsimp only
  obtain ⟨name, hname, package, hpath⟩ := hclass
  obtain ⟨hpoint, htelling, hrepository, hbuild⟩ := hnames name hname
  have hends := sourcePath_endsIn_name root package hpoint htelling
  rw [← hpath] at hends
  rcases List.mem_cons.1 he with rfl | he
  · exact Tree.locate_ne_of_unlike hends (buildFile_endsIn _) hbuild htelling (by decide) hl
  · split at he
    · cases List.mem_singleton.1 he
      exact Tree.locate_ne_of_unlike hends (userRepository_endsIn root _ s) hrepository htelling
        (by decide) hl
    · cases he

end Generate

open Generate Run

/-- The calls of generators for a blueprint, with the templates of the library and the usual
settings. -/
inductive Operation.Generates (root : Path) (b : Blueprint) : Operation → Prop
  | artifact : Generates root b (.artifact .bundled ⟨root, {}⟩ b)
  | security : Generates root b (.security .bundled ⟨root, {}⟩ b)
  | newProject : Generates root b (.newProject .bundled {} root b)

variable {root : Path} {b : Blueprint} {op : Operation} {s : Sheet} {site : Site}

/-- A generator that is called with a blueprint of another kind does nothing. -/
theorem Operation.Generates.eq_forBlueprint (h : op.Generates root b) (site : Site) :
    op = forBlueprint .bundled ⟨root, {}⟩ b ∨ (on site op.run).2.tree = site.tree := by
  cases h with
  | artifact =>
    cases hk : b.kind with
    | security => exact .inr (by simp [run, Generate.artifact, hk])
    | project => exact .inr (by simp [run, Generate.artifact, hk])
    | _ => exact .inl (by simp [forBlueprint, hk])
  | security =>
    by_cases hk : b.kind = .security
    · exact .inl (by simp [forBlueprint, hk])
    · exact .inr (by simp [run, Generate.security, hk])
  | newProject =>
    by_cases hk : b.kind = .project
    · exact .inl (by simp [forBlueprint, hk])
    · exact .inr (by simp [run, Generate.project, hk])

/-- The octets are a template of the library, filled in: the first line names the package, and the
class is declared at the top level, and nothing else. -/
def Declares (template : String) (bindings : Bindings) (octets : List UInt8)
    (package className : String) : Prop :=
  ∃ t inks, catalogue.lookup template = some t ∧ t.print bindings = .ok inks ∧
    octets = Text.Utf8.encode (Ink.text inks).toList ∧
    Text.firstLine (Ink.text inks) = "package " ++ package ++ ";" ∧ declared inks = [className]

theorem Generate.Sourced.declares {project : Project} {o : Output} {package className : String}
    {octets : List UInt8} (h : Sourced project s o package className)
    (hprints : Prints .bundled o.template s.bindings octets) :
    Declares o.template s.bindings octets package className := by
  obtain ⟨heading, hmem, hpackage, hname, hspace⟩ := h.heading
  obtain ⟨t, hlookup, hheaded⟩ := headed_of_mem _ hmem
  obtain ⟨tree, text, hrender, rfl⟩ := hprints
  obtain ⟨inks, hprint, rfl⟩ := print_of_render hlookup hrender
  refine ⟨t, inks, hlookup, hprint, rfl, ?_, ?_⟩
  · rw [hheaded.firstLine hprint (hpackage ▸ h.no_end), hpackage]
  · rw [hheaded.declared hprint hspace, hname]

/-- Whatever a generator finds and however it ends, each source that is new lies at the path of the
package in its first line and the class that it declares; only the test of a project is a test
source. Packages are single lines, and titles of artifacts have no spaces. -/
theorem source_lies_where_it_says (root : Path) (b : Blueprint) (op : Operation)
    (hop : op.Generates root b) (hend : '\n' ∉ b.package.toList)
    (hspace : b.kind ≠ .security → b.kind ≠ .project → ' ' ∉ b.title.toList) (site : Site)
    (place : Location) (file : String) (octets : List UInt8)
    (hnew : site.tree.node? place = none)
    (hnode : (on site op.run).2.tree.node? place = some (.file octets))
    (hfile : place.getLast? = some file) (hjava : Text.endsWith file ".java") :
    ∃ s template package className, Sheet.ofBlueprint b = .ok s ∧
      (on site op.run).2.tree.locate ((s.placed ⟨root, {}⟩).sourcePath package className
        (sourceRootOf {} template)) = .ok place ∧
      Declares template s.bindings octets package className := by
  have hsame : (on site op.run).2.tree ≠ site.tree := by
    intro he
    rw [he, hnew] at hnode
    cases hnode
  rcases hop.eq_forBlueprint site with rfl | he
  case inr => exact absurd he hsame
  cases hs : Sheet.ofBlueprint b with
  | error f =>
    refine absurd ?_ hsame
    rw [Operation.run_forBlueprint, Run.sheet, hs]
    rfl
  | ok s =>
    obtain ⟨path, written, ⟨o, ho, rfl, hprints⟩, hl, hkept⟩ :=
      (Operation.fills_forBlueprint .bundled ⟨root, {}⟩ b hs site).file place octets hnew hnode
    obtain ⟨package, className, hsourced⟩ := sourced_of_mem hs hend hspace ho hl hfile hjava
    have hsettings : (s.placed ⟨root, {}⟩).settings = {} := by
      cases s <;> rfl
    have hpath := hsourced.path
    rw [hsettings] at hpath
    -- the files that may be patched are no new sources, so the file holds what was written
    have hwritten : octets = written := by
      rcases hkept with rfl | ⟨e, he, hle⟩
      · rfl
      · cases s with
        | security s => exact absurd hle (class_unpatched ho he hl)
        | _ => cases he
    refine ⟨s, o.template, package, className, rfl, ?_, ?_⟩
    · rw [← hpath]
      exact hl
    · rw [hwritten]
      exact hsourced.declares hprints

/-- A repository in an empty directory. -/
theorem source_lies_where_it_says_repository :
    let b : Blueprint := { kind := .repository, name := "Product", package := "com.shop" }
    let after := (on ⟨.empty, []⟩ (Operation.artifact .bundled ⟨.here, {}⟩ b).run).2.tree
    let place := ["src", "main", "java", "com", "shop", "Product.java"]
    ∃ octets, after.node? place = some (.file octets) ∧
      ∃ s template package className, Sheet.ofBlueprint b = .ok s ∧
        after.locate ((s.placed ⟨.here, {}⟩).sourcePath package className
          (sourceRootOf {} template)) = .ok place ∧
        Declares template s.bindings octets package className := by
  intro b after place
  have hthere : (after.node? place).map Tree.Node.isDirectory = some false := by decide +kernel
  obtain ⟨node, hnode, hfile⟩ := Option.map_eq_some_iff.1 hthere
  cases node with
  | directory => cases hfile
  | file octets =>
    exact ⟨octets, hnode, source_lies_where_it_says .here b _ .artifact (by decide)
      (fun _ _ => by decide) ⟨.empty, []⟩ place "Product.java" octets (by decide) hnode rfl
      (by decide)⟩

end Groundwork
