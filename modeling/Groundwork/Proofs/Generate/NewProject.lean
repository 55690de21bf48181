import Groundwork.Proofs.Generate.Filling
import Groundwork.Proofs.Name
import Groundwork.Proofs.Package.Detection

/-!
# What is in a new project

A project that is generated where nothing was has directories on the way to its sources, its
resources and its tests, and nowhere else. Its main class is the only file among its main sources,
in the directory of the package that the project was given.
-/

namespace Groundwork

namespace Sheet

variable {b : Blueprint} {s : ProjectSheet}

theorem project_of_ok (h : ofBlueprint b = .ok (.project s)) :
    ProjectSheet.ofBlueprint b = .ok s := by
  have hkind := kind_of_ofBlueprint h
  unfold ofBlueprint at h
  cases hn : b.requireName with
  | error f =>
    rw [hn] at h
    cases h
  | ok u =>
    rw [hn, ← hkind] at h
    cases hp : ProjectSheet.ofBlueprint b with
    | error f =>
      rw [hp] at h
      cases h
    | ok s' =>
      rw [hp] at h
      cases h
      rfl

end Sheet

namespace Generate

open Package

variable {root : Path} {s : ProjectSheet} {b : Blueprint} {segs : List String} {down : List String}

/-- The way from a project to its sources. -/
def sourceWay : List String := ["src", "main", "java"]

/-- The file of the main class, from the project. -/
def mainWay (s : ProjectSheet) (segs : List String) : List String :=
  sourceWay ++ segs ++ [s.mainClass ++ ".java"]

/-- A file of a new project that is not among its main sources. -/
def Aside (down : List String) : Prop :=
  ¬ sourceWay <+: down

/-- A directory of a new project. -/
inductive Laid (segs down : List String) : Prop
  | sources (h : down <+: sourceWay ++ segs)
  | resources (h : down <+: ["src", "main", "resources"])
  | tests (h : down <+: ["src", "test", "java"] ++ segs)

theorem mainClass_no_point (hs : s.Drawn b) : '.' ∉ s.mainClass.toList := by
  intro h
  exact absurd (ProjectSheet.mainClass_chars hs h) (by decide)

theorem mainClass_no_slash (hs : s.Drawn b) : '/' ∉ s.mainClass.toList := by
  intro h
  exact absurd (ProjectSheet.mainClass_chars hs h) (by decide)

theorem sources_descend (root : Path) (hsegs : Joins segs s.basePackage) :
    root.Descends ((⟨root, {}⟩ : Project).packageDirectory s.basePackage) (sourceWay ++ segs) :=
  Project.packageDirectory_descends hsegs (Project.way_of_sources root)

theorem sources_child_descends (root : Path) :
    root.Descends (root.child (Settings.sourceRoot {})) sourceWay :=
  Path.descends_child (s := "src/main/java") (by decide) (by decide) root

theorem tests_descend (root : Path) (hsegs : Joins segs s.basePackage) :
    root.Descends ((⟨root, {}⟩ : Project).packageDirectory s.basePackage
      (⟨root, {}⟩ : Project).settings.testSourceRoot) (["src", "test", "java"] ++ segs) :=
  Project.packageDirectory_descends hsegs (Project.way_of_tests root)

theorem mainFile_descends (root : Path) (hs : s.Drawn b) (hsegs : Joins segs s.basePackage) :
    root.Descends ((⟨root, {}⟩ : Project).sourcePath s.basePackage s.mainClass)
      (mainWay s segs) := by
  have hway := Project.sourcePath_descends hsegs (Project.way_of_sources root)
    (by decide : Text.Telling ".java") (mainClass_no_slash hs)
  rwa [Project.fileName_of_no_point (by decide : '.' ∈ ".java".toList) (mainClass_no_point hs)] at hway

theorem testFile_descends (root : Path) (hs : s.Drawn b) (hsegs : Joins segs s.basePackage) :
    ∃ file, root.Descends
      ((⟨root, {}⟩ : Project).sourcePath s.basePackage (s.mainClass ++ "Tests")
        (⟨root, {}⟩ : Project).settings.testSourceRoot)
      (["src", "test", "java"] ++ segs ++ [file]) := by
  have hslash : '/' ∉ (s.mainClass ++ "Tests").toList := by
    rw [String.toList_append, List.mem_append, not_or]
    exact ⟨mainClass_no_slash hs, by decide⟩
  exact ⟨_, Project.sourcePath_descends hsegs (Project.way_of_tests root)
    (by decide : Text.Telling ".java") hslash⟩

theorem resources_descend (root : Path) :
    root.Descends (root.child resources) ["src", "main", "resources"] :=
  Path.descends_child (s := resources) (by decide) (by decide) root

/-- Where an output of a new project lies: it is the main class, or it is not among the main
sources; and its directory is one that is laid out anyway. -/
structure Placed (root : Path) (s : ProjectSheet) (segs : List String) (o : Output)
    (down : List String) : Prop where
  descends : root.Descends o.path down
  ne_nil : down ≠ []
  file : down = mainWay s segs ∨ Aside down
  folder : Laid segs down.dropLast

theorem placed_at_root {o : Output} {name : String} (hpath : o.path = root.child name)
    (hplain : Path.Plain name) (hup : name ≠ "..") : Placed root s segs o [name] where
  descends := hpath ▸ hplain.descends_child hup root
  ne_nil := by simp
  file := .inr fun h => by simpa [sourceWay] using h.length_le
  folder := .sources List.nil_prefix

theorem placed_main {o : Output} (hs : s.Drawn b) (hsegs : Joins segs s.basePackage)
    (hpath : o.path = (⟨root, {}⟩ : Project).sourcePath s.basePackage s.mainClass) :
    Placed root s segs o (mainWay s segs) where
  descends := hpath ▸ mainFile_descends root hs hsegs
  ne_nil := by simp [mainWay]
  file := .inl rfl
  folder := by
    rw [mainWay, List.dropLast_concat]
    exact .sources (List.prefix_refl _)

theorem placed_properties {o : Output}
    (hpath : o.path = (root.child resources).child "application.properties") :
    Placed root s segs o ["src", "main", "resources", "application.properties"] where
  descends := by
    have hname : Path.Plain "application.properties" := by decide
    rw [hpath]
    exact (resources_descend root).trans (hname.descends_child (by decide) _)
  ne_nil := by simp
  file := .inr (by unfold Aside sourceWay; decide)
  folder := .resources (List.prefix_refl _)

theorem placed_test {o : Output} (hs : s.Drawn b) (hsegs : Joins segs s.basePackage)
    (hpath : o.path = (⟨root, {}⟩ : Project).sourcePath s.basePackage (s.mainClass ++ "Tests")
      (⟨root, {}⟩ : Project).settings.testSourceRoot) : ∃ down, Placed root s segs o down := by
  obtain ⟨file, hfile⟩ := testFile_descends root hs hsegs
  refine ⟨_, hpath ▸ hfile, by simp, .inr ?_, ?_⟩
  · intro h
    simp [sourceWay] at h
  · rw [List.dropLast_concat]
    exact .tests (List.prefix_refl _)

theorem placed_of_mem (root : Path) (hs : s.Drawn b) (hsegs : Joins segs s.basePackage) :
    ∀ o ∈ outputs ⟨root, {}⟩ (.project s), ∃ down, Placed root s segs o down := by
  intro o ho
  rcases List.mem_append.1 ho with ho | ho
  · simp only [List.mem_cons, List.not_mem_nil, or_false] at ho
    rcases ho with h | h | h | h
    · exact ⟨["pom.xml"], placed_at_root (by rw [h]) (by decide) (by decide)⟩
    · exact ⟨_, placed_main hs hsegs (by rw [h])⟩
    · exact ⟨_, placed_properties (by rw [h])⟩
    · exact placed_test hs hsegs (by rw [h])
  · have hnames : ∀ f ∈ optionalFiles, Path.Plain f.2.2 ∧ f.2.2 ≠ ".." := by decide
    obtain ⟨f, hf, rfl⟩ := List.mem_map.1 ho
    obtain ⟨hplain, hup⟩ := hnames f (List.mem_filter.1 hf).1
    exact ⟨[f.2.2], placed_at_root rfl hplain hup⟩

/-- The directories of a new project. -/
theorem laid_of_mem (root : Path) (hs : s.Drawn b) (hsegs : Joins segs s.basePackage) :
    ∀ d ∈ folders ⟨root, {}⟩ (.project s), ∃ down, root.Descends d down ∧ Laid segs down := by
  intro d hd
  rcases List.mem_append.1 hd with hd | hd
  · simp only [directories, skeleton, List.mem_cons, List.not_mem_nil, or_false] at hd
    rcases hd with rfl | rfl | rfl
    · exact ⟨_, sources_descend root hsegs, .sources (List.prefix_refl _)⟩
    · exact ⟨_, resources_descend root, .resources (List.prefix_refl _)⟩
    · have htests := tests_descend root hsegs
      dsimp only at htests
      exact ⟨_, htests, .tests (List.prefix_refl _)⟩
  · obtain ⟨o, ho, rfl⟩ := List.mem_map.1 hd
    obtain ⟨down, hplaced⟩ := placed_of_mem root hs hsegs o ho
    exact ⟨_, hplaced.descends.parent hplaced.ne_nil, hplaced.folder⟩

theorem Laid.of_append {rest : List String} (h : Laid segs (down ++ rest)) : Laid segs down := by
  have hfront := List.prefix_append down rest
  cases h with
  | sources h => exact .sources (hfront.trans h)
  | resources h => exact .resources (hfront.trans h)
  | tests h => exact .tests (hfront.trans h)

/-- No directory of a new project lies below the directory of its package. -/
theorem not_laid (segs : List String) (name : String) (rest : List String) :
    ¬ Laid segs (sourceWay ++ segs ++ name :: rest) := by
  intro h
  cases h with
  | sources h =>
    have hlength := h.length_le
    simp only [List.length_append, List.length_cons] at hlength
    omega
  | resources h => simp [sourceWay] at h
  | tests h => simp [sourceWay] at h

/-- What is at and below the place of a new project. -/
structure Fresh (t : Tree) (r : Location) (s : ProjectSheet) (segs : List String) : Prop where
  directory : ∀ q, t.node? (r ++ q) = some .directory → Laid segs q
  file : ∀ q octets, t.node? (r ++ q) = some (.file octets) → q = mainWay s segs ∨ Aside q
  sources : t.node? (r ++ sourceWay) = some .directory
  folder : t.node? (r ++ (sourceWay ++ segs)) = some .directory
  main : ∃ octets, t.node? (r ++ mainWay s segs) = some (.file octets)

variable {store : Template.Store} {settings : Settings} {output : Path} {site site' : Site}
  {result : ProjectResult} {t : Tree} {r : Location}

theorem project_ok (h : Run.on site (project store settings output b) = (.ok result, site')) :
    ∃ s mid, Sheet.ofBlueprint b = .ok (.project s) ∧ mid.tree = site.tree ∧
      Run.on mid (write store ⟨output.child s.artifact, settings⟩ (.project s))
        = (.ok result.written, site') ∧ result.root = output.child s.artifact := by
  unfold project at h
  split at h
  · cases h
  · obtain ⟨sheet, mid, hs, h⟩ := Run.on_bind_ok.1 h
    obtain ⟨hsheet, hmid⟩ := Run.sheet_ok hs
    cases sheet with
    | project s =>
      dsimp only at h
      rw [projectAt_eq] at h
      obtain ⟨u, mid', hplans, h⟩ := Run.on_bind_ok.1 h
      cases hplans
      obtain ⟨written, mid'', hw, h⟩ := Run.on_bind_ok.1 h
      cases h
      refine ⟨s, _, hsheet, ?_, hw, rfl⟩
      exact hmid
    | _ => cases h

/-- A directory that was made first could be made at the start. -/
theorem made_of_write {project : Project} {written : List Written}
    (h : Run.on site (write store project (.project s)) = (.ok written, site')) :
    (site.tree.ensureDirectory (project.packageDirectory s.basePackage)).2 = .ok () := by
  obtain ⟨u, mid, hd, -⟩ := Run.on_bind_ok.1 h
  obtain ⟨u, mid', hfirst, -⟩ := Run.on_bind_ok.1 hd
  rw [Run.on_ensureDirectory] at hfirst
  cases hmade : (site.tree.ensureDirectory (project.packageDirectory s.basePackage)).2 with
  | error f =>
    rw [hmade] at hfirst
    cases hfirst
  | ok u => rfl

theorem main_mem_outputs (root : Path) (s : ProjectSheet) :
    ⟨"project/main.java.j2", (⟨root, {}⟩ : Project).sourcePath s.basePackage s.mainClass⟩
      ∈ outputs ⟨root, {}⟩ (.project s) := by
  simp [outputs]

/-- A project that was written where nothing was is fresh. -/
theorem fresh_of_write {written : List Written} (hs : s.Drawn b) (hsegs : Joins segs s.basePackage)
    (hguards : Tree.Guards site.tree root r) (hbare : site.tree.node? r = none)
    (hl : site'.tree.locate root = .ok r)
    (h : Run.on site (write store ⟨root, {}⟩ (.project s)) = (.ok written, site')) :
    Fresh site'.tree r s segs := by
  have hfills := fills_write store ⟨root, {}⟩ (.project s) site
  rw [h] at hfills
  obtain ⟨-, -, hstanding⟩ := write_ok h
  have hlaid := laid_of_mem root hs hsegs
  have hplaced := placed_of_mem root hs hsegs
  have hdirectory : ∀ q, site'.tree.node? (r ++ q) = some .directory → Laid segs q := by
    intro q hq
    have hdirs : ∀ d ∈ folders ⟨root, {}⟩ (.project s), ∃ rest, root.Descends d rest :=
      fun d hd => (hlaid d hd).imp fun _ h => h.1
    obtain ⟨d, hd, rest, hrest⟩ :=
      hfills.directory_below hguards hdirs (Tree.none_below hbare q) hq
    obtain ⟨down, hdown, hl⟩ := hlaid d hd
    obtain rfl : down = q ++ rest :=
      List.append_cancel_left (hdown.parts.symm.trans hrest.parts)
    exact hl.of_append
  have hfolder : site'.tree.node? (r ++ (sourceWay ++ segs)) = some .directory := by
    obtain ⟨place, hplace, hn⟩ := Tree.isDirectory?_eq_true.1
      (hstanding.directories _ (List.mem_cons_self))
    obtain ⟨r', hr', rfl⟩ := Tree.locate_descends (sources_descend root hsegs) hplace
    obtain rfl := Except.ok.inj (hl.symm.trans hr')
    exact hn
  refine ⟨hdirectory, fun q octets hq => ?_, ?_, hfolder, ?_⟩
  · have hfiles : ∀ path o, Asks store ⟨root, {}⟩ (.project s) path o →
        ∃ rest, root.Descends path rest := by
      rintro path o ⟨out, hout, rfl, -⟩
      exact (hplaced out hout).imp fun _ h => h.descends
    obtain ⟨path, octets', ⟨out, hout, rfl, -⟩, hpath, -⟩ :=
      hfills.file_below hguards hfiles (Tree.none_below hbare q) hq
    obtain ⟨down, hdown⟩ := hplaced out hout
    obtain rfl : down = q :=
      List.append_cancel_left (hdown.descends.parts.symm.trans hpath.parts)
    exact hdown.file
  · rw [← List.append_assoc] at hfolder
    exact Tree.directory_above hfolder hsegs.ne_nil
  · have hmain := (hstanding.outputs _ (main_mem_outputs root s)).there
    dsimp only at hmain
    obtain ⟨place, node, hplace, hn⟩ := Tree.exists?_eq_true.1 hmain
    obtain ⟨r', hr', rfl⟩ := Tree.locate_descends (mainFile_descends root hs hsegs) hplace
    obtain rfl := Except.ok.inj (hl.symm.trans hr')
    cases node with
    | file octets => exact ⟨octets, hn⟩
    | directory => exact absurd (hdirectory _ hn) (not_laid segs _ [])

/-- A project that was generated where nothing was is fresh. -/
theorem fresh_of_project (hpackage : Joins segs b.package)
    (hfree : (site.tree.ensureDirectory output).1.exists? (output.child (Name.slug b.title))
      = .ok false)
    (h : Run.on site (project store {} output b) = (.ok result, site')) :
    ∃ s r, s.Drawn b ∧ result.root = output.child (Name.slug b.title) ∧
      site'.tree.locate result.root = .ok r ∧
      SourceRoot {} site'.tree result.root (r ++ sourceWay) ∧ Fresh site'.tree r s segs := by
  obtain ⟨s, mid, hsheet, hmid, hw, hroot⟩ := project_ok h
  have hs := ProjectSheet.drawn (Sheet.project_of_ok hsheet)
  have hbase : s.basePackage = b.package := by
    rw [hs.basePackage, if_neg hpackage.ne_empty]
  have hsegs : Joins segs s.basePackage := hbase ▸ hpackage
  have hslug := Name.plain_slug (hs.artifact ▸ hs.artifact_ne)
  rw [← hs.artifact] at hfree hslug ⊢
  rw [hroot]
  have hbelow : output.Descends (output.child s.artifact) [s.artifact] :=
    hslug.1.descends_child hslug.2 output
  have hfolder := sources_descend (output.child s.artifact) hsegs
  have hmade := Tree.ensureDirectory_above (hbelow.above.trans hfolder.above) (made_of_write hw)
  rw [hmid] at hmade
  have hthere := (write_ok hw).2.2.directories _ List.mem_cons_self
  obtain ⟨place, hplace, -⟩ := Tree.isDirectory?_eq_true.1 hthere
  obtain ⟨r, hr, -⟩ := Tree.locate_descends hfolder hplace
  have hgrows := (keeps_write store _ (.project s)).grows hw
  obtain ⟨hguards, hbare⟩ := Tree.Guards.of_made hbelow hmade hfree (hmid ▸ hgrows.home) hr
  rw [← hmid] at hguards hbare
  have hfresh := fresh_of_write hs hsegs hguards hbare hr hw
  have hsources := sources_child_descends (output.child s.artifact)
  obtain ⟨place', hplace', -⟩ := Tree.locate_above (hsources.above_of_more hfolder) hplace
  obtain ⟨r', hr', rfl⟩ := Tree.locate_descends hsources hplace'
  obtain rfl := Except.ok.inj (hr.symm.trans hr')
  exact ⟨s, r, hs, rfl, hr, ⟨hplace', hfresh.sources⟩, hfresh⟩

end Generate

end Groundwork
