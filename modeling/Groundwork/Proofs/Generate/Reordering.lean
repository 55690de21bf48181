import Groundwork.Proofs.Generate.Independent
import Groundwork.Proofs.Generate.Unfailing
import Mathlib.Data.List.Forall2

/-!
# Any order of independent artifacts

With the usual settings and the templates of the library, what there is to report on an artifact is
decided by the tree before all of them, as long as no two of them lead to the same path. So each
reports what it reports alone, and the tree at the end is the same in every order.
-/

namespace Groundwork

open Run Generate
open Groundwork.Tree (Bears Deposit)

namespace Generate

variable {root : Path} {t : Tree} {files : List Deposit} {site site' : Site} {bindings : Bindings}
  {o : Output} {os : List Output} {w : Written} {ws : List Written}

/-- The text of a template of the library, whatever the tree is. -/
def bundledText (bindings : Bindings) (template : String) : String :=
  ((Template.Store.bundled.render .empty template bindings).toOption).getD ""

/-- The file that an output is to be. -/
def deposit (bindings : Bindings) (o : Output) : Deposit :=
  (o.path, Text.Utf8.encode (bundledText bindings o.template).toList)

/-- Outputs that can be taken one after the other: each has a text, and a place of its own. -/
structure Separate (root : Path) (bindings : Bindings) (os : List Output) : Prop where
  targets : ∀ o ∈ os, Path.Target root o.path
  renders : ∀ o ∈ os, ∀ t, Template.Store.bundled.render t o.template bindings
    = .ok (bundledText bindings o.template)
  distinct : (os.map Output.path).Nodup

theorem on_produce (h : Separate root bindings os) (ho : o ∈ os) (site : Site) :
    on site (produce .bundled bindings o)
      = on site (writeFile o.path (bundledText bindings o.template)) := by
  rw [produce, on_bind, on_render, h.renders o ho]

theorem Separate.of_cons (h : Separate root bindings (o :: os)) : Separate root bindings os where
  targets q hq := h.targets q (List.mem_cons_of_mem o hq)
  renders q hq := h.renders q (List.mem_cons_of_mem o hq)
  distinct := (List.nodup_cons.1 h.distinct).2

/-- No output is one of the files. -/
def Apart (files : List Deposit) (os : List Output) : Prop :=
  ∀ o ∈ os, ∀ f ∈ files, f.1 ≠ o.path

/-- Once the first output is a file, it is apart from the others. -/
theorem Separate.apart (h : Separate root bindings (o :: os)) (hnew : Apart files (o :: os))
    (octets : List UInt8) : Apart ((o.path, octets) :: files) os := by
  intro q hq
  refine List.forall_mem_cons.2 ⟨fun hsame => ?_, hnew q (List.mem_cons_of_mem o hq)⟩
  exact (List.nodup_cons.1 h.distinct).1 (List.mem_map.2 ⟨q, hq, hsame.symm⟩)

/-- The outputs are reported as they are due before all of them, and are there afterwards. -/
theorem due_of_produceAll (hsep : Separate root bindings os)
    (h : on site (os.mapM (produce .bundled bindings)) = (.ok ws, site'))
    (hbears : Bears root t files site.tree) (hnew : Apart files os) :
    List.Forall₂ (fun o w => Due t o.path w) os ws ∧
      Bears root t (os.map (deposit bindings) ++ files) site'.tree := by
  induction os generalizing site ws files with
  | nil =>
    cases h
    exact ⟨.nil, hbears⟩
  | cons o rest ih =>
    rw [List.mapM_cons] at h
    obtain ⟨w, mid, hw, h⟩ := on_bind_ok.1 h
    obtain ⟨ws', mid', hws, h⟩ := on_bind_ok.1 h
    cases h
    have htarget := hsep.targets o List.mem_cons_self
    have hfresh := hnew o List.mem_cons_self
    rw [on_produce hsep List.mem_cons_self] at hw
    have hdue := (hbears.due_iff htarget hfresh).1 (due_of_writeFile htarget.ne_nil hw)
    obtain ⟨hdues, hall⟩ := ih hsep.of_cons hws (hbears.writeFile htarget hfresh hw)
      (hsep.apart hnew _)
    exact ⟨.cons hdue hdues, hall.perm List.perm_middle⟩

/-- Outputs that are due can be taken. -/
theorem produceAll_of_due (hsep : Separate root bindings os) (hbears : Bears root t files site.tree)
    (hnew : Apart files os) (h : List.Forall₂ (fun o w => Due t o.path w) os ws) :
    ∃ site', on site (os.mapM (produce .bundled bindings)) = (.ok ws, site') := by
  induction h generalizing site files with
  | nil => exact ⟨site, rfl⟩
  | @cons o w rest ws' hdue hdues ih =>
    have htarget := hsep.targets o List.mem_cons_self
    have hfresh := hnew o List.mem_cons_self
    obtain ⟨mid, hw⟩ := writeFile_of_due ((hbears.due_iff htarget hfresh).2 hdue) htarget.ne_nil
      (bundledText bindings o.template)
    obtain ⟨site', hws⟩ := ih hsep.of_cons (hbears.writeFile htarget hfresh hw) (hsep.apart hnew _)
    rw [← on_produce hsep List.mem_cons_self] at hw
    refine ⟨site', ?_⟩
    rw [List.mapM_cons]
    exact on_bind_ok.2 ⟨w, mid, hw, on_bind_ok.2 ⟨ws', site', hws, rfl⟩⟩

end Generate

namespace Project

variable {root : Path} {package className : String}

theorem plain_usual_fileName (root : Path) (hname : '/' ∉ className.toList) :
    Path.Plain ((⟨root, {}⟩ : Project).fileName className) ∧
      (⟨root, {}⟩ : Project).fileName className ≠ ".." :=
  plain_fileName (by decide : Text.Telling ".java") hname

/-- The file of a class whose package and name have no slashes. -/
theorem target_sourcePath (hpackage : '/' ∉ package.toList) (hname : '/' ∉ className.toList) :
    Path.Target root ((⟨root, {}⟩ : Project).sourcePath package className) := by
  have hsegments : ∀ s ∈ Package.segments package, Package.Segment s :=
    fun s hs => Package.segment_of_mem hpackage hs
  obtain ⟨hplain, hup⟩ := plain_usual_fileName root hname
  refine ⟨_, _, (packageDirectory_descends_segments hsegments (way_of_sources root)).trans
    (hplain.descends_child hup _), fun s hs => ?_, ?_⟩
  · rcases List.mem_append.1 hs with hs | hs
    · have hsources : ∀ s ∈ ["src", "main", "java"], '.' ∉ s.toList := by decide
      exact hsources s hs
    · exact (hsegments s hs).no_point
  · have hends := endsWith_fileName ⟨root, {}⟩ className
    exact (Text.endsWith_iff.1 hends).subset (by decide : '.' ∈ ".java".toList)

theorem fileName_implementation_ne (root : Path) (className : String) :
    (⟨root, {}⟩ : Project).fileName (Name.implementation className)
      ≠ (⟨root, {}⟩ : Project).fileName className := by
  have hends : Text.endsWith (Name.implementation className) "Impl" :=
    Text.endsWith_append (by decide) className
  have hno : ¬ Text.endsWith (Name.implementation className) ".java" :=
    Text.Unlike.not_both (by decide) hends
  intro h
  have hlength := congrArg String.length h
  have hlonger : "Impl".length = 4 ∧ ".java".length = 5 := by decide
  rw [fileName, fileName, if_neg hno, Name.implementation] at hlength
  split at hlength <;> simp only [String.length_append] at hlength <;> omega

/-- An interface and its implementation are two files. -/
theorem sourcePath_implementation_ne (hname : '/' ∉ className.toList)
    (himplementation : '/' ∉ (Name.implementation className).toList) :
    (⟨root, {}⟩ : Project).sourcePath package (Name.implementation className)
      ≠ (⟨root, {}⟩ : Project).sourcePath package className := by
  obtain ⟨hplain, -⟩ := plain_usual_fileName root hname
  obtain ⟨hplain', -⟩ := plain_usual_fileName root himplementation
  intro h
  have hparts := congrArg Path.parts h
  rw [sourcePath, sourcePath, hplain.parts_child, hplain'.parts_child] at hparts
  exact fileName_implementation_ne root className
    (List.singleton_inj.1 (List.append_cancel_left hparts))

end Project

namespace Sheet

variable {root : Path} {b : Blueprint} {s : Sheet}

/-- A sheet for one class, or for an interface and its implementation. -/
def Single (s : Sheet) : Prop :=
  s.kind ≠ .security ∧ s.kind ≠ .project

theorem renders_bundledText {project : Project} {o : Output} (ho : o ∈ outputs project s)
    (t : Tree) : Template.Store.bundled.render t o.template s.bindings
      = .ok (bundledText s.bindings o.template) := by
  obtain ⟨text, htext⟩ := renders (template_mem ho) .empty
  rw [bundledText, htext]
  exact htext

theorem separate (hs : ofBlueprint b = .ok s) (hsingle : s.Single)
    (hname : '/' ∉ b.name.toList) (hpackage : '/' ∉ b.package.toList) :
    Separate root s.bindings (outputs ⟨root, {}⟩ s) := by
  have htitle : '/' ∉ b.title.toList := fun h => hname (Text.mem_of_mem_trim h)
  have hone {template package className : String} (hpackage : '/' ∉ package.toList)
      (hname : '/' ∉ className.toList)
      (ho : outputs ⟨root, {}⟩ s
        = [⟨template, (⟨root, {}⟩ : Project).sourcePath package className⟩]) :
      Separate root s.bindings (outputs ⟨root, {}⟩ s) := by
    refine ⟨fun o h => ?_, fun o h t => renders_bundledText h t, ?_⟩
    · rw [ho, List.mem_singleton] at h
      subst h
      dsimp only
      exact Project.target_sourcePath hpackage hname
    · rw [ho]
      exact List.nodup_singleton _
  cases from_of_ok hs with
  | model => exact hone hpackage htitle rfl
  | controller h =>
    obtain ⟨hn, hp, -⟩ := ControllerSheet.eq_of_ok h
    exact hone (hp ▸ hpackage) (hn ▸ htitle) rfl
  | repository h =>
    obtain ⟨hn, hp, -⟩ := RepositorySheet.eq_of_ok h
    exact hone (hp ▸ hpackage) (hn ▸ htitle) rfl
  | @service s h =>
    obtain ⟨hn, hp, -⟩ := ServiceSheet.eq_of_ok h
    have hpackage' : '/' ∉ s.package.toList := hp ▸ hpackage
    have hname' : '/' ∉ s.name.toList := hn ▸ htitle
    have himplementation : '/' ∉ s.implementation.toList := by
      rw [ServiceSheet.implementation, Name.implementation, String.toList_append, List.mem_append,
        not_or]
      exact ⟨hname', by decide⟩
    cases hown : s.ownInterface with
    | false => exact hone hpackage' hname' (by rw [outputs, hown]; rfl)
    | true =>
      have ho : outputs ⟨root, {}⟩ (.service s)
          = [⟨"service_interface.java.j2", (⟨root, {}⟩ : Project).sourcePath s.package s.name⟩,
            ⟨"service_impl.java.j2",
              (⟨root, {}⟩ : Project).sourcePath s.package s.implementation⟩] := by
        rw [outputs, hown]
        rfl
      refine ⟨fun o h => ?_, fun o h t => renders_bundledText h t, ?_⟩
      · rw [ho, List.mem_cons, List.mem_singleton] at h
        rcases h with rfl | rfl <;> dsimp only
        · exact Project.target_sourcePath hpackage' hname'
        · exact Project.target_sourcePath hpackage' himplementation
      · rw [ho, List.map_cons, List.map_cons, List.map_nil, List.nodup_cons, List.mem_singleton]
        have hne : (⟨root, {}⟩ : Project).sourcePath s.package s.implementation
            ≠ (⟨root, {}⟩ : Project).sourcePath s.package s.name :=
          Project.sourcePath_implementation_ne hname' himplementation
        dsimp only
        exact ⟨hne.symm, List.nodup_singleton _⟩
  | security h => exact absurd rfl hsingle.1
  | project h => exact absurd rfl hsingle.2

end Sheet

namespace Blueprint

/-- The name and the package have no slashes. -/
structure Slashless (b : Blueprint) : Prop where
  name : '/' ∉ b.name.toList
  package : '/' ∉ b.package.toList

/-- The paths that an artifact leads to. -/
def targets (root : Path) (b : Blueprint) : List Path :=
  match Sheet.ofBlueprint b with
  | .ok s => (outputs ⟨root, {}⟩ s).map Output.path
  | .error _ => []

/-- The files that an artifact is to be. -/
def deposits (root : Path) (b : Blueprint) : List Deposit :=
  match Sheet.ofBlueprint b with
  | .ok s => (outputs ⟨root, {}⟩ s).map (deposit s.bindings)
  | .error _ => []

theorem map_deposits (root : Path) (b : Blueprint) :
    (b.deposits root).map Prod.fst = b.targets root := by
  unfold deposits targets
  cases Sheet.ofBlueprint b with
  | error f => rfl
  | ok s => exact List.map_map

end Blueprint

namespace Generate

variable {root : Path} {t : Tree} {files : List Deposit} {site site' : Site} {b : Blueprint}
  {s : Sheet} {ws : List Written} {order : List Blueprint} {results : List (List Written)}

theorem single_of_artifact {store : Template.Store} {project : Project}
    (h : on site (artifact store project b) = (.ok ws, site')) :
    ∃ s, Sheet.ofBlueprint b = .ok s ∧ s.Single := by
  unfold artifact at h
  split at h
  · cases h
  · rename_i hkind
    obtain ⟨s, mid, hsheet, -⟩ := on_bind_ok.1 h
    have hs := (sheet_ok hsheet).1
    simp only [← Sheet.kind_of_ofBlueprint hs, Bool.or_eq_true, decide_eq_true_eq, not_or]
      at hkind
    exact ⟨s, hs, hkind⟩

theorem on_artifact (hs : Sheet.ofBlueprint b = .ok s) (hsingle : s.Single)
    (store : Template.Store) (project : Project) (site : Site) :
    on site (artifact store project b)
      = on ⟨site.tree, site.notices ++ s.notices ++ plans s⟩
        ((outputs project s).mapM (produce store s.bindings)) := by
  have hkind := Sheet.kind_of_ofBlueprint hs
  cases s with
  | security s => exact absurd rfl hsingle.1
  | project s => exact absurd rfl hsingle.2
  | _ =>
    rw [Sheet.kind] at hkind
    simp [artifact, Run.sheet, ← hkind, hs, on_bind, model_eq, controller_eq, repository_eq,
      service_eq, write, directories, plans, Sheet.notices]

/-- What there is to report on an artifact, told from a tree without it. -/
def Reports (root : Path) (t : Tree) (b : Blueprint) (ws : List Written) : Prop :=
  ∃ s, Sheet.ofBlueprint b = .ok s ∧ s.Single ∧
    List.Forall₂ (fun o w => Due t o.path w) (outputs ⟨root, {}⟩ s) ws

/-- What is related to each element is its image, if the image is all that can be related to it. -/
theorem map_of_forall₂ {α β : Type} {R : α → β → Prop} {f : α → β} {as : List α} {bs : List β}
    (h : List.Forall₂ R as bs) (hf : ∀ a ∈ as, ∀ b, R a b → f a = b) :
    bs = as.map f ∧ ∀ a ∈ as, R a (f a) := by
  induction h with
  | nil => exact ⟨rfl, fun a ha => by cases ha⟩
  | @cons a b as bs hab h ih =>
    obtain ⟨himage, hall⟩ := ih fun a' ha' => hf a' (List.mem_cons_of_mem a ha')
    have hfirst := hf a List.mem_cons_self b hab
    refine ⟨by rw [List.map_cons, hfirst, himage], List.forall_mem_cons.2 ⟨?_, hall⟩⟩
    rwa [hfirst]

theorem Apart.of_targets (hs : Sheet.ofBlueprint b = .ok s)
    (h : ∀ p ∈ b.targets root, ∀ f ∈ files, f.1 ≠ p) : Apart files (outputs ⟨root, {}⟩ s) := by
  intro o ho
  refine h o.path ?_
  rw [Blueprint.targets, hs]
  exact List.mem_map_of_mem ho

/-- An artifact reports what it is due before all of them, and its files are there afterwards. -/
theorem reports_of_artifact (hslash : b.Slashless) (hbears : Bears root t files site.tree)
    (hnew : ∀ p ∈ b.targets root, ∀ f ∈ files, f.1 ≠ p)
    (h : on site (artifact .bundled ⟨root, {}⟩ b) = (.ok ws, site')) :
    Reports root t b ws ∧ Bears root t (b.deposits root ++ files) site'.tree := by
  obtain ⟨s, hs, hsingle⟩ := single_of_artifact h
  rw [on_artifact hs hsingle] at h
  obtain ⟨hdue, hall⟩ := due_of_produceAll (Sheet.separate hs hsingle hslash.name hslash.package)
    h hbears (.of_targets hs hnew)
  refine ⟨⟨s, hs, hsingle, hdue⟩, ?_⟩
  rw [Blueprint.deposits, hs]
  exact hall

theorem artifact_of_reports (hslash : b.Slashless) (hbears : Bears root t files site.tree)
    (hnew : ∀ p ∈ b.targets root, ∀ f ∈ files, f.1 ≠ p) (h : Reports root t b ws) :
    ∃ site', on site (artifact .bundled ⟨root, {}⟩ b) = (.ok ws, site') := by
  obtain ⟨s, hs, hsingle, hdue⟩ := h
  rw [on_artifact hs hsingle]
  exact produceAll_of_due (Sheet.separate hs hsingle hslash.name hslash.package) hbears
    (.of_targets hs hnew) hdue

/-- Artifacts that can be generated one after the other: their targets are apart from each other and
from the files. -/
structure Independent (root : Path) (files : List Deposit) (order : List Blueprint) : Prop where
  slashless : ∀ b ∈ order, b.Slashless
  apart : order.Pairwise fun a b => List.Disjoint (a.targets root) (b.targets root)
  new : ∀ b ∈ order, ∀ p ∈ b.targets root, ∀ f ∈ files, f.1 ≠ p

theorem Independent.of_cons (h : Independent root files (b :: order)) :
    Independent root (b.deposits root ++ files) order where
  slashless c hc := h.slashless c (List.mem_cons_of_mem b hc)
  apart := (List.pairwise_cons.1 h.apart).2
  new c hc p hp f hf := by
    rcases List.mem_append.1 hf with hf | hf
    · rintro rfl
      refine (List.pairwise_cons.1 h.apart).1 c hc ?_ hp
      rw [← Blueprint.map_deposits]
      exact List.mem_map_of_mem hf
    · exact h.new c (List.mem_cons_of_mem b hc) p hp f hf

/-- A run over artifacts: each reports what it is due before all of them. -/
theorem reports_of_run (hind : Independent root files order) (hbears : Bears root t files site.tree)
    (h : on site (order.mapM (artifact .bundled ⟨root, {}⟩)) = (.ok results, site')) :
    List.Forall₂ (Reports root t) order results ∧
      Bears root t (order.flatMap (Blueprint.deposits root) ++ files) site'.tree := by
  induction order generalizing site results files with
  | nil =>
    cases h
    exact ⟨.nil, hbears⟩
  | cons b rest ih =>
    rw [List.mapM_cons] at h
    obtain ⟨ws, mid, hws, h⟩ := on_bind_ok.1 h
    obtain ⟨results', mid', hrest, h⟩ := on_bind_ok.1 h
    cases h
    obtain ⟨hreports, hmid⟩ := reports_of_artifact (hind.slashless b List.mem_cons_self) hbears
      (hind.new b List.mem_cons_self) hws
    obtain ⟨hall, hend⟩ := ih hind.of_cons hmid hrest
    refine ⟨.cons hreports hall, hend.perm ?_⟩
    rw [List.flatMap_cons, ← List.append_assoc]
    exact List.perm_append_comm.append_right files

theorem run_of_reports (hind : Independent root files order) (hbears : Bears root t files site.tree)
    (h : List.Forall₂ (Reports root t) order results) :
    ∃ site', on site (order.mapM (artifact .bundled ⟨root, {}⟩)) = (.ok results, site') := by
  induction h generalizing site files with
  | nil => exact ⟨site, rfl⟩
  | @cons b ws rest results' hreports hall ih =>
    have hslash := hind.slashless b List.mem_cons_self
    have hnew := hind.new b List.mem_cons_self
    obtain ⟨mid, hws⟩ := artifact_of_reports hslash hbears hnew hreports
    obtain ⟨-, hmid⟩ := reports_of_artifact hslash hbears hnew hws
    obtain ⟨site', hrest⟩ := ih hind.of_cons hmid
    refine ⟨site', ?_⟩
    rw [List.mapM_cons]
    exact on_bind_ok.2 ⟨ws, mid, hws, on_bind_ok.2 ⟨results', site', hrest, rfl⟩⟩

end Generate

/-- Artifacts that lead to different paths are generated in any order: once one order succeeds, every
other one does, each artifact reports what it reports alone, and the tree at the end is the same. -/
theorem generated_in_any_order (root : Path) (site site' : Site) (order other : List Blueprint)
    (results : List (List Written)) (hperm : other.Perm order)
    (hslash : ∀ b ∈ order, '/' ∉ b.name.toList ∧ '/' ∉ b.package.toList)
    (hapart : order.Pairwise fun a b => List.Disjoint (a.targets root) (b.targets root))
    (hrun : on site (order.mapM (artifact .bundled ⟨root, {}⟩)) = (.ok results, site')) :
    ∃ alone : Blueprint → List Written,
      (∀ b ∈ order, (on site (artifact .bundled ⟨root, {}⟩ b)).1 = .ok (alone b)) ∧
      results = order.map alone ∧
      ∃ site'', on site (other.mapM (artifact .bundled ⟨root, {}⟩))
          = (.ok (other.map alone), site'') ∧
        site''.tree.node? = site'.tree.node? ∧ site''.tree.home = site'.tree.home := by
  have hind : Independent root [] order :=
    ⟨fun b hb => ⟨(hslash b hb).1, (hslash b hb).2⟩, hapart, fun _ _ _ _ f hf => by cases hf⟩
  have hind' : Independent root [] other :=
    ⟨fun b hb => hind.slashless b (hperm.mem_iff.1 hb),
      hperm.symm.pairwise hapart fun h p hp hp' => h hp' hp, fun _ _ _ _ f hf => by cases hf⟩
  have hstart := Bears.nil root site.tree
  obtain ⟨hreports, hbears⟩ := reports_of_run hind hstart hrun
  have halone : ∀ b ∈ order, ∀ ws, Reports root site.tree b ws →
      (on site (artifact .bundled ⟨root, {}⟩ b)).1 = .ok ws := by
    intro b hb ws h
    obtain ⟨mid, hmid⟩ := artifact_of_reports (hind.slashless b hb) hstart (hind.new b hb) h
    rw [hmid]
  obtain ⟨hresults, hdue⟩ := map_of_forall₂
    (f := fun b => ((on site (artifact .bundled ⟨root, {}⟩ b)).1.toOption).getD []) hreports
    fun b hb ws h => by rw [halone b hb ws h]; rfl
  have hother : List.Forall₂ (Reports root site.tree) other (other.map _) :=
    List.forall₂_map_right_iff.2 (List.forall₂_same.2 fun b hb => hdue b (hperm.mem_iff.1 hb))
  obtain ⟨site'', hrun'⟩ := run_of_reports hind' hstart hother
  obtain ⟨-, hbears'⟩ := reports_of_run hind' hstart hrun'
  refine ⟨_, fun b hb => halone b hb _ (hdue b hb), hresults, site'', hrun', ?_, ?_⟩
  · exact hbears.node?_eq hbears' ((hperm.symm.flatMap_right _).append_right [])
  · rw [hbears'.fills.grows.home, hbears.fills.grows.home]

/-- A service, and a repository in a directory beside it. -/
def shopArtifacts : List Blueprint :=
  [{ kind := .service, name := "Cart", package := "com.shop" },
    { kind := .repository, name := "CartRepository", package := "com.shop.data" }]

theorem shopArtifacts_in_any_order : ∃ results site',
    on ⟨.empty, []⟩ (shopArtifacts.mapM (artifact .bundled ⟨.here, {}⟩)) = (.ok results, site') ∧
    ∃ alone : Blueprint → List Written,
      (∀ b ∈ shopArtifacts, (on ⟨.empty, []⟩ (artifact .bundled ⟨.here, {}⟩ b)).1
        = .ok (alone b)) ∧
      results = shopArtifacts.map alone ∧
      ∃ site'', on ⟨.empty, []⟩ (shopArtifacts.reverse.mapM (artifact .bundled ⟨.here, {}⟩))
          = (.ok (shopArtifacts.reverse.map alone), site'') ∧
        site''.tree.node? = site'.tree.node? ∧ site''.tree.home = site'.tree.home := by
  have hchecked : (on ⟨.empty, []⟩ (shopArtifacts.mapM (artifact .bundled ⟨.here, {}⟩))).1.isOk
        = true ∧
      shopArtifacts.Pairwise fun a b => ∀ p ∈ a.targets .here, p ∉ b.targets .here := by
    decide +kernel
  obtain ⟨hok, hapart⟩ := hchecked
  obtain ⟨results, site', hrun⟩ := on_ok_of_isOk hok
  exact ⟨results, site', hrun, generated_in_any_order .here ⟨.empty, []⟩ site' shopArtifacts
    shopArtifacts.reverse results (List.reverse_perm _) (by decide)
    (hapart.imp fun h p hp hp' => h p hp hp') hrun⟩

end Groundwork
