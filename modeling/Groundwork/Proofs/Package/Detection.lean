import Groundwork.Package.Detection
import Groundwork.Proofs.Tree.Making
import Groundwork.Proofs.Tree.Walk

/-!
# What the detected base package is

The base package in terms of the tree alone, without a walk: the least directory that holds an
entry point, else the least one with the first name that any has, else the fallback. Directories
are given by their paths from the source root, which itself never counts.
-/

namespace Groundwork.Package

variable {settings : Settings} {t : Tree} {project : Path} {root dir : Location}
  {package base name : String} {wanted : Location → Bool} {P : Location → Prop}

/-- The source root is a directory and lies at `root`. -/
def SourceRoot (settings : Settings) (t : Tree) (project : Path) (root : Location) : Prop :=
  t.locate (project.child settings.sourceRoot) = .ok root ∧ t.node? root = some .directory

/-- A file that counts as an entry point lies directly in the directory. -/
structure HoldsEntryPoint (settings : Settings) (look : Location → Option Node)
    (root dir : Location) : Prop where
  below : dir ≠ []
  directory : look (root ++ dir) = some .directory
  entry : ∃ name octets, look (root ++ dir ++ [name]) = some (.file octets) ∧
    Text.endsWith name settings.entryPointEnding

/-- The last name of the directory is the given one. -/
structure HasName (look : Location → Option Node) (root : Location) (name : String)
    (dir : Location) : Prop where
  directory : look (root ++ dir) = some .directory
  last : dir.getLast? = some name

/-- A package without its ending `.model`, if it has it. -/
def withoutModel (package : String) : String :=
  (Text.dropEnding? package ".model").getD package

/-- The base package of a project, by the one rule that applies. -/
inductive Base (settings : Settings) (t : Tree) (project : Path) : String → Prop
  | entryPoint (root dir : Location) (hroot : SourceRoot settings t project root)
      (hdir : Least (HoldsEntryPoint settings t.node? root) dir) :
      Base settings t project (ofLocation dir)
  | domain (root dir : Location) (earlier later : List String) (name : String)
      (hroot : SourceRoot settings t project root)
      (hentry : ∀ dir, ¬ HoldsEntryPoint settings t.node? root dir)
      (hnames : settings.modelDirectories = earlier ++ name :: later)
      (hearlier : ∀ other ∈ earlier, ∀ dir, ¬ HasName t.node? root other dir)
      (hdir : Least (HasName t.node? root name) dir) :
      Base settings t project (withoutModel (ofLocation dir))
  | unknown (root : Location) (hroot : SourceRoot settings t project root)
      (hentry : ∀ dir, ¬ HoldsEntryPoint settings t.node? root dir)
      (hnames : ∀ name ∈ settings.modelDirectories, ∀ dir, ¬ HasName t.node? root name dir) :
      Base settings t project settings.fallbackPackage
  | rootless (hroot : ∀ root, ¬ SourceRoot settings t project root) :
      Base settings t project settings.fallbackPackage

theorem sought_iff : t.Sought (fun place => place != root && wanted place) root (root ++ dir) ↔
    dir ≠ [] ∧ t.node? (root ++ dir) = some .directory ∧ wanted (root ++ dir) := by
  constructor
  · rintro ⟨-, hd, hw⟩
    obtain ⟨hne, hw⟩ := Bool.and_eq_true_iff.1 hw
    refine ⟨?_, hd, hw⟩
    rintro rfl
    simp at hne
  · rintro ⟨hne, hd, hw⟩
    refine ⟨List.prefix_append root dir, hd, Bool.and_eq_true_iff.2 ⟨?_, hw⟩⟩
    simpa using hne

theorem least_append (hP : ∀ dir, P dir ↔
      t.Sought (fun place => place != root && wanted place) root (root ++ dir)) :
    Least (t.Sought (fun place => place != root && wanted place) root) (root ++ dir) ↔
      Least P dir := by
  constructor
  · intro h
    refine ⟨(hP dir).2 h.holds, fun other ho => ?_⟩
    have hleast := h.least (root ++ other) ((hP other).1 ho)
    exact fun hbefore => hleast (List.append_left_lt hbefore)
  · intro h
    refine ⟨(hP dir).1 h.holds, fun other ho => ?_⟩
    obtain ⟨rest, rfl⟩ := ho.within
    exact List.append_left_le (h.least rest ((hP rest).2 ho))

/-- The first package of a walk is that of the least directory with the property. -/
theorem first?_eq_some (hroot : t.node? root = some .directory)
    (hP : ∀ dir, P dir ↔
      dir ≠ [] ∧ t.node? (root ++ dir) = some .directory ∧ wanted (root ++ dir)) :
    first? t root wanted = some package ↔ ∃ dir, Least P dir ∧ ofLocation dir = package := by
  have hP' : ∀ dir, P dir ↔
      t.Sought (fun place => place != root && wanted place) root (root ++ dir) :=
    fun dir => (hP dir).trans sought_iff.symm
  rw [first?, Option.map_eq_some_iff]
  constructor
  · rintro ⟨place, hplace, hpackage⟩
    have hleast := (Tree.walk?_eq_some hroot).1 hplace
    obtain ⟨dir, rfl⟩ := hleast.holds.within
    rw [List.drop_left] at hpackage
    exact ⟨dir, (least_append hP').1 hleast, hpackage⟩
  · rintro ⟨dir, hdir, hpackage⟩
    refine ⟨root ++ dir, (Tree.walk?_eq_some hroot).2 ((least_append hP').2 hdir), ?_⟩
    rw [List.drop_left, hpackage]

theorem first?_eq_none (hroot : t.node? root = some .directory)
    (hP : ∀ dir, P dir ↔
      dir ≠ [] ∧ t.node? (root ++ dir) = some .directory ∧ wanted (root ++ dir)) :
    first? t root wanted = none ↔ ∀ dir, ¬ P dir := by
  rw [first?, Option.map_eq_none_iff, Tree.walk?_eq_none hroot]
  constructor
  · intro h dir hdir
    exact h (root ++ dir) (sought_iff.2 ((hP dir).1 hdir))
  · intro h place hplace
    obtain ⟨dir, rfl⟩ := hplace.within
    exact h dir ((hP dir).2 (sought_iff.1 hplace))

theorem holdsEntryPoint_iff (dir : Location) : HoldsEntryPoint settings t.node? root dir ↔
    dir ≠ [] ∧ t.node? (root ++ dir) = some .directory ∧
      (t.fileNames (root ++ dir)).any (Text.endsWith · settings.entryPointEnding) := by
  rw [List.any_eq_true]
  constructor
  · rintro ⟨hne, hd, name, octets, hfile, hend⟩
    exact ⟨hne, hd, name, Tree.mem_fileNames.2 ⟨octets, hfile⟩, hend⟩
  · rintro ⟨hne, hd, name, hname, hend⟩
    obtain ⟨octets, hfile⟩ := Tree.mem_fileNames.1 hname
    exact ⟨hne, hd, name, octets, hfile, hend⟩

theorem hasName_iff (dir : Location) : HasName t.node? root name dir ↔
    dir ≠ [] ∧ t.node? (root ++ dir) = some .directory ∧ (root ++ dir).getLast? == some name := by
  constructor
  · rintro ⟨hd, hlast⟩
    refine ⟨?_, hd, ?_⟩
    · rintro rfl
      cases hlast
    · rw [List.getLast?_append, hlast]
      exact beq_self_eq_true _
  · rintro ⟨hne, hd, hlast⟩
    refine ⟨hd, ?_⟩
    rw [beq_iff_eq, List.getLast?_append] at hlast
    cases hdir : dir.getLast? with
    | none => exact absurd (List.getLast?_eq_none_iff.1 hdir) hne
    | some last =>
      rw [hdir] at hlast
      exact hlast

theorem base_of_detectBelow (hroot : SourceRoot settings t project root) :
    Base settings t project (detectBelow settings t root).base := by
  unfold detectBelow
  cases he : entryPoint? settings t root with
  | some package =>
    obtain ⟨dir, hdir, rfl⟩ := (first?_eq_some hroot.2 holdsEntryPoint_iff).1 he
    exact .entryPoint root dir hroot hdir
  | none =>
    have hnone := (first?_eq_none hroot.2 holdsEntryPoint_iff).1 he
    cases hd : domain? settings t root with
    | some package =>
      obtain ⟨earlier, name, later, hnames, hfound, hearlier⟩ := List.findSome?_eq_some_iff.1 hd
      obtain ⟨dir, hdir, rfl⟩ := (first?_eq_some hroot.2 hasName_iff).1 hfound
      refine .domain root dir earlier later name hroot hnone hnames (fun other ho => ?_) hdir
      exact (first?_eq_none hroot.2 hasName_iff).1 (hearlier other ho)
    | none =>
      refine .unknown root hroot hnone fun name hname => ?_
      exact (first?_eq_none hroot.2 hasName_iff).1 (List.findSome?_eq_none_iff.1 hd name hname)

theorem detect_of_sourceRoot (hroot : SourceRoot settings t project root) :
    detect settings t project = detectBelow settings t root := by
  unfold detect
  dsimp only
  rw [Tree.isDirectory?_eq_true.2 ⟨root, hroot⟩, hroot.1]

theorem detect_of_rootless (hroot : ∀ root, ¬ SourceRoot settings t project root) :
    (detect settings t project).base = settings.fallbackPackage := by
  unfold detect
  dsimp only
  split
  · rename_i place hd _
    obtain ⟨root, hr⟩ := Tree.isDirectory?_eq_true.1 hd
    exact absurd hr (hroot root)
  · rfl
  · rfl

/-- Detection follows one of the rules. -/
theorem base_of_detect (settings : Settings) (t : Tree) (project : Path) :
    Base settings t project (detect settings t project).base := by
  by_cases h : ∃ root, SourceRoot settings t project root
  · obtain ⟨root, hroot⟩ := h
    rw [detect_of_sourceRoot hroot]
    exact base_of_detectBelow hroot
  · have hno : ∀ root, ¬ SourceRoot settings t project root := fun root hr => h ⟨root, hr⟩
    rw [detect_of_rootless hno]
    exact .rootless hno

/-- Where a rule applies, detection follows it. -/
theorem Base.eq_detect (h : Base settings t project base) :
    (detect settings t project).base = base := by
  cases h with
  | entryPoint root dir hroot hdir =>
    have he : entryPoint? settings t root = some (ofLocation dir) :=
      (first?_eq_some hroot.2 holdsEntryPoint_iff).2 ⟨dir, hdir, rfl⟩
    rw [detect_of_sourceRoot hroot, detectBelow, he]
  | domain root dir earlier later name hroot hnone hnames hearlier hdir =>
    have he : entryPoint? settings t root = none :=
      (first?_eq_none hroot.2 holdsEntryPoint_iff).2 hnone
    have hfound : named? t root name = some (ofLocation dir) :=
      (first?_eq_some hroot.2 hasName_iff).2 ⟨dir, hdir, rfl⟩
    have hd : domain? settings t root = some (ofLocation dir) :=
      List.findSome?_eq_some_iff.2 ⟨earlier, name, later, hnames, hfound, fun other ho =>
        (first?_eq_none hroot.2 hasName_iff).2 (hearlier other ho)⟩
    rw [detect_of_sourceRoot hroot, detectBelow, he, hd]
    rfl
  | unknown root hroot hnone hnames =>
    have he : entryPoint? settings t root = none :=
      (first?_eq_none hroot.2 holdsEntryPoint_iff).2 hnone
    have hd : domain? settings t root = none :=
      List.findSome?_eq_none_iff.2 fun name hmem =>
        (first?_eq_none hroot.2 hasName_iff).2 (hnames name hmem)
    rw [detect_of_sourceRoot hroot, detectBelow, he, hd]
  | rootless hroot => exact detect_of_rootless hroot

/-- The rules look at a tree through its paths and nodes alone. -/
theorem Base.congr {other : Tree} (hl : other.locate = t.locate) (hn : other.node? = t.node?)
    (h : Base settings t project base) : Base settings other project base := by
  have hroots : ∀ root, SourceRoot settings other project root ↔
      SourceRoot settings t project root := by
    intro root
    rw [SourceRoot, SourceRoot, hl, hn]
  cases h with
  | entryPoint root dir hroot hdir =>
    exact .entryPoint root dir ((hroots root).2 hroot) (hn ▸ hdir)
  | domain root dir earlier later name hroot hnone hnames hearlier hdir =>
    exact .domain root dir earlier later name ((hroots root).2 hroot) (hn ▸ hnone) hnames
      (hn ▸ hearlier) (hn ▸ hdir)
  | unknown root hroot hnone hnames =>
    exact .unknown root ((hroots root).2 hroot) (hn ▸ hnone) (hn ▸ hnames)
  | rootless hroot => exact .rootless fun root h => hroot root ((hroots root).1 h)

/-- The detected base package is the one that the rules give, and two trees that differ in the
order of their entries alone have the same. -/
theorem detect_iff (settings : Settings) (t : Tree) (project : Path) (base : String) :
    ((detect settings t project).base = base ↔ Base settings t project base) ∧
      ∀ other : Tree, other.home = t.home → other.entries.Perm t.entries →
        (detect settings other project).base = (detect settings t project).base := by
  refine ⟨⟨?_, Base.eq_detect⟩, fun other hhome hperm => ?_⟩
  · rintro rfl
    exact base_of_detect settings t project
  · have hn : other.node? = t.node? := Tree.node?_of_perm hperm
    have hl : other.locate = t.locate := Tree.locate_of_node? hhome hn
    exact ((base_of_detect settings t project).congr hl hn).eq_detect

/-- A project with an entry point in `shop` and a domain package beside it. -/
def sampleEntries : Entries :=
  [(["src"], .directory), (["src", "main"], .directory), (["src", "main", "java"], .directory),
    (["src", "main", "java", "model"], .directory), (["src", "main", "java", "shop"], .directory),
    (["src", "main", "java", "shop", "ShopApplication.java"], .file [])]

def sample : Tree :=
  ⟨sampleEntries, [], by constructor <;> decide⟩

def sampleReversed : Tree :=
  ⟨sampleEntries.reverse, [], by constructor <;> decide⟩

theorem detect_iff_sample : Base {} sample .here "shop" ∧
    (detect {} sampleReversed .here).base = (detect {} sample .here).base := by
  obtain ⟨hiff, hsame⟩ := detect_iff {} sample .here "shop"
  exact ⟨hiff.1 (by decide +kernel), hsame sampleReversed rfl (List.reverse_perm sampleEntries)⟩

end Groundwork.Package
