import Groundwork.Proofs.Command
import Groundwork.Proofs.Generate.NewProject

/-!
# A new project is detected

The only entry point in the sources of a new project is its main class, so the detector finds the
package that the project was given, whether it is called from where the project was generated or
from inside the project. A model that follows goes below that package.
-/

namespace Groundwork

open Package

namespace Generate

variable {t view : Tree} {root project : Path} {r : Location} {s : ProjectSheet} {b : Blueprint}
  {segs : List String} {package : String}

/-- Only the directory of the package of a fresh project holds an entry point. -/
theorem Fresh.holdsEntryPoint_iff (hfresh : Fresh t r s segs) (hsegs : segs ≠ [])
    (dir : Location) : HoldsEntryPoint {} t.node? (r ++ sourceWay) dir ↔ dir = segs := by
  constructor
  · rintro ⟨-, -, name, octets, hfile, -⟩
    have hway : r ++ sourceWay ++ dir ++ [name] = r ++ (sourceWay ++ (dir ++ [name])) := by
      simp
    rw [hway] at hfile
    rcases hfresh.file _ octets hfile with hmain | haside
    · rw [mainWay, List.append_assoc] at hmain
      have hend := List.append_cancel_left hmain
      exact (List.append_inj' hend rfl).1
    · exact absurd (List.prefix_append _ _) haside
  · rintro rfl
    obtain ⟨octets, hmain⟩ := hfresh.main
    refine ⟨hsegs, ?_, s.mainClass ++ ".java", octets, ?_, ?_⟩
    · rw [List.append_assoc]
      exact hfresh.folder
    · rw [← hmain, mainWay]
      simp
    · have hends : Text.endsWith ("Application" ++ ".java") (Settings.entryPointEnding {}) := by
        decide
      rw [ProjectSheet.mainClass, String.append_assoc]
      exact Text.endsWith_append hends s.classPrefix

theorem Fresh.detect (hfresh : Fresh t r s segs) (hsegs : Joins segs package)
    (hroot : SourceRoot {} t project (r ++ sourceWay)) :
    (detect {} t project).base = package := by
  have hiff := hfresh.holdsEntryPoint_iff hsegs.ne_nil
  have hleast : Least (HoldsEntryPoint {} t.node? (r ++ sourceWay)) segs := by
    refine ⟨(hiff segs).2 rfl, fun other ho => ?_⟩
    rw [(hiff other).1 ho]
    exact List.le_refl segs
  rw [hsegs.eq]
  exact (Base.entryPoint _ segs hroot hleast).eq_detect

/-- Nothing is in a package below that of a fresh project. -/
theorem Fresh.vacant (hfresh : Fresh t r s segs) (name file : String) :
    t.node? (r ++ (sourceWay ++ (segs ++ [name]) ++ [file])) = none := by
  cases hn : t.node? (r ++ (sourceWay ++ (segs ++ [name]) ++ [file])) with
  | none => rfl
  | some node =>
    exfalso
    have hway : sourceWay ++ (segs ++ [name]) ++ [file] = sourceWay ++ segs ++ name :: [file] := by
      simp
    rw [hway] at hn
    cases node with
    | directory => exact not_laid segs name [file] (hfresh.directory _ hn)
    | file octets =>
      rcases hfresh.file _ octets hn with hmain | haside
      · have hlength := congrArg List.length hmain
        simp only [mainWay, List.length_append, List.length_cons] at hlength
        omega
      · rw [List.append_assoc] at haside
        exact haside (List.prefix_append _ _)

/-- Two ways to speak of a project: by its path, or from inside it. -/
inductive Seen (t : Tree) (root : Path) : Tree → Path → Prop
  | byPath : Seen t root t root
  | inside (r : Location) (h : t.locate root = .ok r) : Seen t root { t with home := r } .here

theorem Seen.locate (h : Seen t root view project) (hr : t.locate root = .ok r) :
    view.locate project = .ok r := by
  cases h with
  | byPath => exact hr
  | inside r' h' =>
    obtain rfl := Except.ok.inj (hr.symm.trans h')
    rfl

theorem Seen.fresh (h : Seen t root view project) (hfresh : Fresh t r s segs) :
    Fresh view r s segs := by
  cases h with
  | byPath => exact hfresh
  | inside r' h' =>
    exact ⟨hfresh.directory, hfresh.file, hfresh.sources, hfresh.folder, hfresh.main⟩

theorem Seen.sourceRoot (h : Seen t root view project) (hr : t.locate root = .ok r)
    (hroot : SourceRoot {} t root (r ++ sourceWay)) :
    SourceRoot {} view project (r ++ sourceWay) := by
  cases h with
  | byPath => exact hroot
  | inside r' h' =>
    obtain rfl := Except.ok.inj (hr.symm.trans h')
    have hsources := sources_child_descends root
    obtain ⟨r', hr', rest, hrest, hsteps⟩ := Tree.locate_above hsources.above hroot.1
    obtain rfl := Except.ok.inj (hr.symm.trans hr')
    obtain rfl : sourceWay = rest := List.append_cancel_left (hsources.parts.symm.trans hrest)
    have hpassable : Tree.Passable (Path.here.child (Settings.sourceRoot {})) :=
      ⟨by decide, by decide⟩
    exact ⟨Tree.locate_eq_ok.2 ⟨hpassable, hsteps⟩, hroot.2⟩

end Generate

namespace Package

theorem ofInput_none (usual : String) : Fragment.ofInput none usual = .segment usual := by
  rw [Fragment.ofInput, if_pos (by decide)]

end Package

namespace Command

variable {c : Command} {b : Blueprint} {s : Sheet}

open Run Generate

/-- However a blueprint is fulfilled, the tree has filled up with what its sheet asks for. -/
theorem fills_fulfil (hs : Sheet.ofBlueprint b = .ok s) :
    Fills (s.patchable c.project) (folders (s.placed c.project) s)
      (Asks c.store (s.placed c.project) s) (c.fulfil b) := by
  refine Fills.bind_of (fills_of_tree_eq fun site => ?_) fun {_ s' _} h => ?_
  · rw [Run.sheet, hs]
    rfl
  · rw [(sheet_ok h).1] at hs
    cases hs
    refine (fills_carryOut c.store c.project s).bind fun account => ?_
    exact fills_of_tree_eq fun site => by rw [Program.told, on_ofExcept]

theorem tree_fulfil_error {f : Failure} (hs : Sheet.ofBlueprint b = .error f) (site : Site) :
    (on site (c.fulfil b)).2.tree = site.tree := by
  rw [fulfil, Run.sheet, hs]
  rfl

end Command

namespace ModelRequest

variable {request : ModelRequest}

theorem name_below (request : ModelRequest) (base : String) :
    ((Request.model request).below base).name = request.name :=
  rfl

/-- A model that is given no package goes into `model` below the base package. -/
theorem package_below (hnone : request.package = none) (base : String) :
    ((Request.model request).below base).package = base ++ "." ++ "model" := by
  rw [Request.below, Request.blueprint, ModelRequest.blueprint, resolve, hnone, ofInput_none]
  rfl

end ModelRequest

namespace Tree

/-- A file that is in `b` and not in `a` is where the path leads. -/
def OnlyNew (file : Path) (a b : Tree) : Prop :=
  ∀ place octets, a.node? place = none → b.node? place = some (.file octets) →
    b.locate file = .ok place

/-- The path leads to a file that is in `b` and not in `a`. -/
def IsNew (file : Path) (a b : Tree) : Prop :=
  ∃ place octets, b.locate file = .ok place ∧ a.node? place = none ∧
    b.node? place = some (.file octets)

end Tree

open Run Generate

section Model

variable {view : Tree} {project : Path} {r : Location} {s : ProjectSheet} {segs : List String}
  {package : String} {request : ModelRequest} {site site' : Site} {lines : List String}

/-- The command of a model request under the usual settings. -/
def ModelRequest.command (request : ModelRequest) : Command :=
  ⟨{}, .model request⟩

/-- Where the class of a model request goes in a project with the given base package. -/
def ModelRequest.file (request : ModelRequest) (project : Path) (base : String) : Path :=
  (⟨project, {}⟩ : Project).sourcePath (base ++ "." ++ "model") (Text.trim request.name)

theorem Sheet.model_of_ok {b : Blueprint} (hk : b.kind = .model) {sheet : Sheet}
    (hs : Sheet.ofBlueprint b = .ok sheet) : sheet = .model (.ofBlueprint b) := by
  unfold Sheet.ofBlueprint at hs
  rw [hk] at hs
  cases hn : b.requireName with
  | error f =>
    rw [hn] at hs
    cases hs
  | ok u =>
    rw [hn] at hs
    exact (Except.ok.inj hs).symm

theorem ModelRequest.sheet_eq (hnone : request.package = none) {b : Blueprint} {base : String}
    (hb : b = (Request.model request).below base) {sheet : Sheet}
    (hs : Sheet.ofBlueprint b = .ok sheet) :
    ∃ m, sheet = .model m ∧ ∀ project : Path, ∃ o, outputs ⟨project, {}⟩ sheet = [o] ∧
      o.path = request.file project base := by
  have hkind : b.kind = .model := hb ▸ Request.kind_below base _
  have hname : b.name = request.name := hb ▸ ModelRequest.name_below request base
  have hpackage : b.package = base ++ "." ++ "model" := hb ▸ ModelRequest.package_below hnone base
  rw [Sheet.model_of_ok hkind hs]
  refine ⟨_, rfl, fun project => ⟨_, rfl, ?_⟩⟩
  rw [ModelRequest.file, ← hpackage, ← hname]
  simp only [ModelSheet.ofBlueprint, Blueprint.title]

theorem ModelRequest.blueprint_eq (hbase : (detect {} site.tree project).base = package)
    (houtput : Path.ofText request.output = project) :
    request.command.blueprint site.tree = (Request.model request).below package := by
  rw [← hbase, ← houtput]
  rfl

/-- However the command ends, the class of the model is the only file it can add. -/
theorem ModelRequest.fills (site : Site) (hnone : request.package = none)
    (hbase : (detect {} site.tree project).base = package)
    (houtput : Path.ofText request.output = project) :
    Tree.Fills [] [(request.file project package).parent]
      (fun path _ => path = request.file project package) site.tree
      (on site (Program.perform {} (.model request))).2.tree := by
  have hb := ModelRequest.blueprint_eq hbase houtput
  obtain ⟨notices, hon⟩ := request.command.on_perform site
  have hperform : on site (Program.perform {} (.model request)) = _ := hon
  rw [hperform]
  cases hs : Sheet.ofBlueprint (request.command.blueprint site.tree) with
  | error f =>
    rw [Command.tree_fulfil_error hs]
    exact .refl _ _ _ _
  | ok sheet =>
    obtain ⟨m, rfl, houtputs⟩ := ModelRequest.sheet_eq hnone hb hs
    obtain ⟨out, hout, hpath⟩ := houtputs project
    have hfills := Command.fills_fulfil (c := request.command) hs ⟨site.tree, notices⟩
    have hplaced : (Sheet.model m).placed request.command.project = ⟨project, {}⟩ := by
      rw [← houtput]
      rfl
    rw [hplaced] at hfills
    refine hfills.mono (List.Subset.refl _) ?_ ?_
    · simp [folders, directories, hout, hpath]
    · rintro path octets ⟨o, ho, rfl, -⟩
      rw [hout, List.mem_singleton] at ho
      rw [ho, hpath]

/-- Where the command succeeds, something is where the class goes. -/
theorem ModelRequest.there (hnone : request.package = none)
    (hbase : (detect {} site.tree project).base = package)
    (houtput : Path.ofText request.output = project)
    (h : on site (Program.perform {} (.model request)) = (.ok lines, site')) :
    site'.tree.exists? (request.file project package) = .ok true := by
  obtain ⟨sheet, hs, hrest, -⟩ := Command.finished_of_perform (c := request.command) rfl h
  obtain ⟨m, rfl, houtputs⟩ :=
    ModelRequest.sheet_eq hnone (ModelRequest.blueprint_eq hbase houtput) hs
  have hplaced : (Sheet.model m).placed request.command.project = ⟨project, {}⟩ := by
    rw [← houtput]
    rfl
  obtain ⟨out, hout, hpath⟩ := houtputs project
  have hstanding := hrest.standing.outputs
  rw [hplaced, hout] at hstanding
  rw [← hpath]
  exact (hstanding out (List.mem_singleton_self out)).there

theorem model_segment : Segment "model" :=
  ⟨by decide, by decide, by decide⟩

/-- The class of a model with a plain name is a new file in a fresh project. -/
theorem ModelRequest.isNew (site : Site) (hfresh : Fresh site.tree r s segs) (hsegs : Joins segs package)
    (hl : site.tree.locate project = .ok r) (hnone : request.package = none)
    (hbase : (detect {} site.tree project).base = package)
    (houtput : Path.ofText request.output = project)
    (hslash : '/' ∉ (Text.trim request.name).toList)
    (h : on site (Program.perform {} (.model request)) = (.ok lines, site')) :
    Tree.IsNew (request.file project package) site.tree site'.tree := by
  have hfills := ModelRequest.fills site hnone hbase houtput
  rw [h] at hfills
  have hway : project.Descends (request.file project package) (sourceWay ++ (segs ++ ["model"])
      ++ [(⟨project, {}⟩ : Project).fileName (Text.trim request.name)]) :=
    Project.sourcePath_descends (hsegs.concat model_segment) (Project.way_of_sources project)
      (by decide : Text.Telling ".java") hslash
  obtain ⟨place, node, hplace, hn⟩ :=
    Tree.exists?_eq_true.1 (ModelRequest.there hnone hbase houtput h)
  obtain ⟨r', hr', rfl⟩ := Tree.locate_descends hway hplace
  obtain rfl := Except.ok.inj ((hfills.grows.locate hl).symm.trans hr')
  have hvacant := hfresh.vacant "model" ((⟨project, {}⟩ : Project).fileName (Text.trim request.name))
  cases node with
  | file octets => exact ⟨_, octets, hplace, hvacant, hn⟩
  | directory =>
    -- the only directories on the way are those of the package, and they are shorter
    exfalso
    have hdirs : ∀ d ∈ [(request.file project package).parent], ∃ rest, project.Descends d rest := by
      intro d hd
      rw [List.mem_singleton.1 hd]
      exact ⟨_, hway.parent (by simp)⟩
    obtain ⟨d, hd, rest, hrest⟩ :=
      hfills.directory_below (Tree.Guards.of_locate hl) hdirs hvacant hn
    rw [List.mem_singleton.1 hd] at hrest
    have hparts := hrest.parts.symm.trans (hway.parent (by simp)).parts
    have hlength := congrArg List.length (List.append_cancel_left hparts)
    simp only [List.length_append, List.length_dropLast, List.length_cons, List.length_nil]
      at hlength
    omega

end Model

/-- A project that is generated with a package of proper segments, in a directory that, once it is
there, has nothing of that name, is detected as a project with that package, by its path as well as
from inside. A model command without a package that follows there writes its class to `model` below
the package, and nothing else. -/
theorem generated_project_detected (b : Blueprint) (segs : List String) (output : Path)
    (site site' : Site) (result : ProjectResult) (hpackage : Joins segs b.package)
    (hfree : (site.tree.ensureDirectory output).1.exists? (output.child (Name.slug b.title))
      = .ok false)
    (hrun : on site (Generate.project .bundled {} output b) = (.ok result, site')) :
    result.root = output.child (Name.slug b.title) ∧
      ∀ view project, Seen site'.tree result.root view project →
        (detect {} view project).base = b.package ∧
        ∀ (request : ModelRequest) (notices : List Notice), request.package = none →
          Path.ofText request.output = project →
          ∃ dir file, project.Descends dir (["src", "main", "java"] ++ segs ++ ["model"]) ∧
            file = dir.child ((⟨project, {}⟩ : Project).fileName (Text.trim request.name)) ∧
            Tree.OnlyNew file view
              (on ⟨view, notices⟩ (Program.perform {} (.model request))).2.tree ∧
            ∀ lines left, '/' ∉ (Text.trim request.name).toList →
              on ⟨view, notices⟩ (Program.perform {} (.model request)) = (.ok lines, left) →
                Tree.IsNew file view left.tree := by
  obtain ⟨s, r, -, hroot, hl, hsources, hfresh⟩ := fresh_of_project hpackage hfree hrun
  refine ⟨hroot, fun view project hseen => ?_⟩
  have hview := hseen.fresh hfresh
  have hbase := hview.detect hpackage (hseen.sourceRoot hl hsources)
  refine ⟨hbase, fun request notices hnone houtput => ?_⟩
  have hdir : project.Descends
      ((⟨project, {}⟩ : Project).packageDirectory (b.package ++ "." ++ "model"))
      (["src", "main", "java"] ++ segs ++ ["model"]) := by
    rw [List.append_assoc]
    exact Project.packageDirectory_descends (hpackage.concat model_segment)
      (Project.way_of_sources project)
  refine ⟨_, request.file project b.package, hdir, rfl, ?_, fun lines left hslash h => ?_⟩
  · intro place octets hvacant hfile
    have hfills := ModelRequest.fills ⟨view, notices⟩ hnone hbase houtput
    obtain ⟨path, -, rfl, hplace, -⟩ := hfills.file place octets hvacant hfile
    exact hplace
  · exact ModelRequest.isNew ⟨view, notices⟩ hview hpackage (hseen.locate hl) hnone hbase houtput
      hslash h

/-- A project with segments that are named like domain packages and like an entry point, generated
in an empty directory. -/
theorem generated_project_detected_shop :
    let b : Blueprint := { kind := .project, name := "My Shop", package := "com.entity.Application" }
    let segs := ["com", "entity", "Application"]
    let site : Site := ⟨.empty, []⟩
    Joins segs b.package ∧
      (site.tree.ensureDirectory .here).1.exists? (Path.here.child (Name.slug b.title))
        = .ok false ∧
      ∃ result site', on site (Generate.project .bundled {} .here b) = (.ok result, site') ∧
        ∀ view project, Seen site'.tree result.root view project →
          (detect {} view project).base = "com.entity.Application" := by
  intro b segs site
  have hpackage : Joins segs b.package := by
    refine ⟨by decide, fun s hs => ?_, by decide⟩
    simp only [segs, List.mem_cons, List.not_mem_nil, or_false] at hs
    rcases hs with rfl | rfl | rfl <;> exact ⟨by decide, by decide, by decide⟩
  have hfree : (site.tree.ensureDirectory .here).1.exists? (Path.here.child (Name.slug b.title))
      = .ok false := by
    have hanswer : ((site.tree.ensureDirectory .here).1.exists?
        (Path.here.child (Name.slug b.title))).toOption = some false := by decide +kernel
    generalize (site.tree.ensureDirectory .here).1.exists? (Path.here.child (Name.slug b.title))
      = answer at hanswer
    cases answer with
    | error f => cases hanswer
    | ok found => exact congrArg Except.ok (Option.some.inj hanswer)
  have hok : (on site (Generate.project .bundled {} .here b)).1.isOk = true := by decide +kernel
  refine ⟨hpackage, hfree, ?_⟩
  obtain ⟨result, site', hon⟩ := on_ok_of_isOk hok
  obtain ⟨-, hview⟩ := generated_project_detected b segs .here site site' result hpackage hfree hon
  exact ⟨result, site', hon, fun view project hseen => (hview view project hseen).1⟩

end Groundwork
