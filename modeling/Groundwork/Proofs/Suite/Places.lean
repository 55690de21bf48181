import Groundwork.Proofs.Generate.NewProject
import Groundwork.Proofs.Suite.Texts

/-!
# Where the sources of a suite lie

Every source of a suite lies in a package below the base package, and the package and the class say
which source it is, but for a service, which comes in two forms.
-/

namespace Groundwork

open Package Template

namespace Suite

open Generate

/-- A source of a suite: the sheet and the template that it is rendered from, the segment of its
package below the base package, and its class. -/
structure Source where
  sheet : Sheet
  template : String
  segment : String
  className : String

/-- The user repository, the only source that is changed once it is there. -/
def repositorySource (s : Suite) (base : String) : Source where
  sheet := .repository (s.repositorySheet base)
  template := "repository.java.j2"
  segment := "repository"
  className := s.entity ++ "Repository"

/-- The sources of a suite, with a service in both forms. -/
def sources (s : Suite) (base : String) : List Source :=
  [⟨.model (s.modelSheet base), "model.java.j2", "model", s.entity⟩,
      s.repositorySource base,
      ⟨.service (s.serviceSheet base), "service_interface.java.j2", "service",
        s.entity ++ "Service"⟩,
      ⟨.service (s.serviceSheet base), "service_impl.java.j2", "service",
        s.entity ++ "Service" ++ "Impl"⟩,
      ⟨.service (s.serviceSheet base), "service.java.j2", "service", s.entity ++ "Service"⟩,
      ⟨.controller (s.controllerSheet base), "controller.java.j2", "controller",
        s.entity ++ "Controller"⟩,
      ⟨.security (s.securitySheet base), "security/auth_controller.java.j2", "controller",
        "AuthController"⟩]
    ++ securityClasses.map fun c => ⟨.security (s.securitySheet base), c.2, "security", c.1⟩

namespace Source

variable (src : Source)

def path (root : Path) (base : String) : Path :=
  (⟨root, {}⟩ : Project).sourcePath (under base src.segment) src.className

def output (root : Path) (base : String) : Output :=
  ⟨src.template, src.path root base⟩

@[simp] theorem output_path (root : Path) (base : String) :
    (src.output root base).path = src.path root base := by
  rw [output]

/-- The way from the root to the file of the source. -/
def way (segs : List String) : List String :=
  sourceWay ++ (segs ++ [src.segment]) ++ [src.className ++ ".java"]

/-- The names of a source are those of a directory and of a file. -/
structure Plain : Prop where
  segment : Segment src.segment
  no_point : '.' ∉ src.className.toList
  no_slash : '/' ∉ src.className.toList

variable {src} {other : Source} {root : Path} {segs : List String} {base : String}

theorem Plain.descends (h : src.Plain) (hbase : Joins segs base) :
    root.Descends (src.path root base) (src.way segs) := by
  have hway := Project.sourcePath_descends (hbase.concat h.segment) (Project.way_of_sources root)
    (by decide : Text.Telling ".java") h.no_slash
  rwa [Project.fileName_of_no_point (by decide : '.' ∈ ".java".toList) h.no_point] at hway

theorem length_way (src : Source) (segs : List String) : (src.way segs).length = segs.length + 5 := by
  simp only [way, sourceWay, List.length_append, List.length_cons, List.length_nil]
  omega

theorem way_ne_nil (src : Source) (segs : List String) : src.way segs ≠ [] := by
  rw [← List.length_pos_iff, length_way]
  omega

theorem way_inj (h : src.way segs = other.way segs) :
    src.segment = other.segment ∧ src.className = other.className := by
  obtain ⟨hfolders, hfiles⟩ := List.append_inj' h rfl
  have hsegments := (List.append_inj' (List.append_cancel_left hfolders) rfl).2
  have hnames := congrArg String.toList (List.singleton_inj.1 hfiles)
  rw [String.toList_append, String.toList_append] at hnames
  exact ⟨List.singleton_inj.1 hsegments, String.toList_inj.1 (List.append_cancel_right hnames)⟩

end Source

variable {s : Suite} {base : String} {root : Path} {sheet : Sheet} {o : Output} {src : Source}

theorem plain_append {entity suffix : String} (h : Name.Identifier entity) {c : Char}
    (hc : c ∈ ['.', '/', ' ', '\n', '\r']) (hsuffix : c ∉ suffix.toList) :
    c ∉ (entity ++ suffix).toList := by
  rw [String.toList_append, List.mem_append, not_or]
  exact ⟨h.not_mem hc, hsuffix⟩

theorem plain_of_mem (h : Name.Identifier s.entity) (hsrc : src ∈ s.sources base) : src.Plain := by
  have hsegments : ∀ segment ∈ ["model", "repository", "service", "controller", "security"],
      Segment segment := by
    intro segment hmem
    simp only [List.mem_cons, List.not_mem_nil, or_false] at hmem
    rcases hmem with rfl | rfl | rfl | rfl | rfl <;> exact ⟨by decide, by decide, by decide⟩
  have hown : ∀ name ∈ "AuthController" :: securityClasses.map Prod.fst,
      '.' ∉ name.toList ∧ '/' ∉ name.toList := by
    decide
  have hentity : ∀ suffix, '.' ∉ suffix.toList ∧ '/' ∉ suffix.toList →
      '.' ∉ (s.entity ++ suffix).toList ∧ '/' ∉ (s.entity ++ suffix).toList := by
    intro suffix hsuffix
    exact ⟨plain_append h (by decide) hsuffix.1, plain_append h (by decide) hsuffix.2⟩
  have hplain : src.segment ∈ ["model", "repository", "service", "controller", "security"] ∧
      '.' ∉ src.className.toList ∧ '/' ∉ src.className.toList := by
    rcases List.mem_append.1 hsrc with hsrc | hsrc
    · simp only [List.mem_cons, List.not_mem_nil, or_false] at hsrc
      rcases hsrc with rfl | rfl | rfl | rfl | rfl | rfl | rfl
      · exact ⟨by simp, h.not_mem (by decide), h.not_mem (by decide)⟩
      · exact ⟨by simp [repositorySource], hentity "Repository" (by decide)⟩
      · exact ⟨by simp, hentity "Service" (by decide)⟩
      · rw [String.append_assoc]
        exact ⟨by simp, hentity ("Service" ++ "Impl") (by decide)⟩
      · exact ⟨by simp, hentity "Service" (by decide)⟩
      · exact ⟨by simp, hentity "Controller" (by decide)⟩
      · exact ⟨by simp, hown _ List.mem_cons_self⟩
    · obtain ⟨c, hc, rfl⟩ := List.mem_map.1 hsrc
      exact ⟨by simp, hown c.1 (List.mem_cons_of_mem _ (List.mem_map_of_mem hc))⟩
  exact ⟨hsegments _ hplain.1, hplain.2.1, hplain.2.2⟩

/-- Every output of a suite is one of its sources. -/
theorem source_of_output (hsheet : sheet ∈ s.sheets base) (ho : o ∈ outputs ⟨root, {}⟩ sheet) :
    ∃ src ∈ s.sources base, src.sheet = sheet ∧ o = src.output root base := by
  simp only [sheets, List.mem_cons, List.not_mem_nil, or_false] at hsheet
  rcases hsheet with rfl | rfl | rfl | rfl | rfl
  · exact ⟨⟨.model (s.modelSheet base), "model.java.j2", "model", s.entity⟩, by simp [sources], rfl,
      List.mem_singleton.1 ho⟩
  · exact ⟨s.repositorySource base, by simp [sources], rfl, List.mem_singleton.1 ho⟩
  · rw [outputs] at ho
    split at ho
    · rcases List.mem_cons.1 ho with ho | ho
      · exact ⟨⟨.service (s.serviceSheet base), "service_interface.java.j2", "service",
          s.entity ++ "Service"⟩, by simp [sources], rfl, ho⟩
      · exact ⟨⟨.service (s.serviceSheet base), "service_impl.java.j2", "service",
          s.entity ++ "Service" ++ "Impl"⟩, by simp [sources], rfl, List.mem_singleton.1 ho⟩
    · exact ⟨⟨.service (s.serviceSheet base), "service.java.j2", "service",
        s.entity ++ "Service"⟩, by simp [sources], rfl, List.mem_singleton.1 ho⟩
  · exact ⟨⟨.controller (s.controllerSheet base), "controller.java.j2", "controller",
      s.entity ++ "Controller"⟩, by simp [sources], rfl, List.mem_singleton.1 ho⟩
  · rcases List.mem_append.1 ho with ho | ho
    · obtain ⟨c, hc, rfl⟩ := List.mem_map.1 ho
      exact ⟨_, List.mem_append_right _ (List.mem_map_of_mem hc), rfl, rfl⟩
    · rw [List.mem_singleton, controllerPackage_eq] at ho
      exact ⟨⟨.security (s.securitySheet base), "security/auth_controller.java.j2", "controller",
        "AuthController"⟩, by simp [sources], rfl, ho⟩

/-- Only the user repository lies in its package. -/
theorem eq_repositorySource (hsrc : src ∈ s.sources base) (h : src.segment = "repository") :
    src = s.repositorySource base := by
  rcases List.mem_append.1 hsrc with hsrc | hsrc
  · simp only [List.mem_cons, List.not_mem_nil, or_false] at hsrc
    rcases hsrc with rfl | rfl | rfl | rfl | rfl | rfl | rfl
    case inr.inl => rfl
    all_goals
      dsimp only at h
      exact absurd h (by decide)
  · obtain ⟨c, -, rfl⟩ := List.mem_map.1 hsrc
    dsimp only at h
    exact absurd h (by decide)

/-- A source of the security package is the class that its name says. -/
theorem eq_securitySource (hsrc : src ∈ s.sources base) (h : src.segment = "security") :
    ∃ c ∈ securityClasses, src = ⟨.security (s.securitySheet base), c.2, "security", c.1⟩ := by
  rcases List.mem_append.1 hsrc with hsrc | hsrc
  · simp only [List.mem_cons, List.not_mem_nil, or_false] at hsrc
    rcases hsrc with rfl | rfl | rfl | rfl | rfl | rfl | rfl
    case inr.inl => exact absurd (show "repository" = "security" from h) (by decide)
    all_goals
      dsimp only at h
      exact absurd h (by decide)
  · obtain ⟨c, hc, rfl⟩ := List.mem_map.1 hsrc
    exact ⟨c, hc, rfl⟩

/-- Every class that a suite imports is an output of it. -/
theorem output_of_class {c : String × String} (hc : c ∈ s.classes base) (root : Path) :
    ∃ sheet ∈ s.sheets base, ∃ template,
      ⟨template, (⟨root, {}⟩ : Project).sourcePath c.1 c.2⟩ ∈ outputs ⟨root, {}⟩ sheet := by
  rcases List.mem_append.1 hc with hc | hc
  · simp only [List.mem_cons, List.not_mem_nil, or_false] at hc
    rcases hc with rfl | rfl | rfl
    · exact ⟨.model (s.modelSheet base), by simp [sheets], "model.java.j2",
        List.mem_singleton_self _⟩
    · exact ⟨.repository (s.repositorySheet base), by simp [sheets], "repository.java.j2",
        List.mem_singleton_self _⟩
    · refine ⟨.service (s.serviceSheet base), by simp [sheets], ?_⟩
      rw [outputs]
      split
      · exact ⟨"service_interface.java.j2", List.mem_cons_self⟩
      · exact ⟨"service.java.j2", List.mem_cons_self⟩
  · have hnames : ∀ name ∈ ["JwtRequest", "JwtResponse", "JwtUtils", "UserPrincipal"],
        ∃ c ∈ securityClasses, c.1 = name := by
      decide
    obtain ⟨name, hname, rfl⟩ := List.mem_map.1 hc
    obtain ⟨own, hown, rfl⟩ := hnames name hname
    exact ⟨.security (s.securitySheet base), by simp [sheets], own.2,
      List.mem_append_left _ (List.mem_map.2 ⟨own, hown, rfl⟩)⟩

end Suite

end Groundwork
