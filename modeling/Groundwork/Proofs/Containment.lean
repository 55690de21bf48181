import Groundwork.Proofs.Path

/-!
# Which classes share a file

The file of a class lies below the source root, one directory down for each segment of its package,
as long as neither the package nor the name of the class holds a slash. Its path gives the segments
back, and the name of the file: two classes share a file only where they have the same segments and
the same name, the extension aside that one of them may already have.
-/

namespace Groundwork

/-- A package cut at its points. -/
structure Package.CutsInto (package : String) (parts : List String) : Prop where
  ne_nil : parts ≠ []
  no_point : ∀ part ∈ parts, '.' ∉ part.toList
  joined : ".".intercalate parts = package

/-- A name with the extension of a source, which is added where it is missing. -/
inductive Extended (name : String) : String → Prop
  | own (h : ".java".toList <:+ name.toList) : Extended name name
  | added (h : ¬ ".java".toList <:+ name.toList) : Extended name (name ++ ".java")

/-- A path goes down from the source root of a project through directories to a file. -/
structure Path.LiesBelow (root : Path) (directories : List String) (file : String) (path : Path) :
    Prop where
  below : (root.child "src/main/java").Above path
  anchor : path.anchor = root.anchor
  parts : path.parts = root.parts ++ ["src", "main", "java"] ++ directories ++ [file]
  named : ∀ part ∈ directories ++ [file], part ≠ "" ∧ part ≠ "." ∧ part ≠ ".."

variable {root path path' : Path} {directories directories' : List String} {file file' : String}
  {package name : String}

/-- A path below the source root is known by its directories and its file. -/
theorem Path.LiesBelow.eq_iff (h : root.LiesBelow directories file path)
    (h' : root.LiesBelow directories' file' path') :
    path = path' ↔ directories = directories' ∧ file = file' := by
  constructor
  · rintro rfl
    have hparts := h.parts.symm.trans h'.parts
    obtain ⟨hdirectories, hfile⟩ := List.append_inj' hparts rfl
    exact ⟨List.append_cancel_left hdirectories, List.singleton_inj.1 hfile⟩
  · rintro ⟨rfl, rfl⟩
    exact Path.ext (h.anchor.trans h'.anchor.symm) (h.parts.trans h'.parts.symm)

namespace Project

theorem cutsInto_pieces (package : String) :
    Package.CutsInto package (Text.pieces '.' package) :=
  have hcut := Text.cutAt_pieces '.' package
  ⟨hcut.ne_nil, hcut.no_mark, hcut.joined⟩

theorem extended_fileName (root : Path) (name : String) :
    Extended name ((⟨root, {}⟩ : Project).fileName name) := by
  unfold fileName
  split
  · rename_i h
    exact .own (Text.endsWith_iff.1 h)
  · rename_i h
    exact .added fun hends => h (Text.endsWith_iff.2 hends)

theorem liesBelow_sourcePath (root : Path) (hpackage : '/' ∉ package.toList)
    (hname : '/' ∉ name.toList) :
    root.LiesBelow (Package.segments package) ((⟨root, {}⟩ : Project).fileName name)
      ((⟨root, {}⟩ : Project).sourcePath package name) := by
  have hsegments : ∀ s ∈ Package.segments package, Package.Segment s :=
    fun s hs => Package.segment_of_mem hpackage hs
  have hfile : Path.Plain ((⟨root, {}⟩ : Project).fileName name) ∧
      (⟨root, {}⟩ : Project).fileName name ≠ ".." :=
    plain_fileName (by decide : Text.Telling ".java") hname
  obtain ⟨hplain, hup⟩ := hfile
  have hway := way_of_sources root
  have hdirectory := packageDirectory_descends_segments hsegments hway
  have hpath : root.Descends ((⟨root, {}⟩ : Project).sourcePath package name) _ :=
    hdirectory.trans (hplain.descends_child hup _)
  have hsources := Path.descends_child hway.relative (hway.parts ▸ hway.down) root
  rw [hway.parts] at hsources
  rw [List.append_assoc] at hpath
  refine ⟨hsources.above_of_more hpath, hpath.anchor, ?_, fun part hpart => ?_⟩
  · rw [hpath.parts]
    simp only [List.append_assoc]
  · rcases List.mem_append.1 hpart with hpart | hpart
    · have hseg := hsegments part hpart
      exact ⟨hseg.ne_empty, hseg.plain.ne_dot, hseg.ne_up⟩
    · obtain rfl := List.mem_singleton.1 hpart
      exact ⟨hplain.ne_empty, hplain.ne_dot, hup⟩

end Project

/-- The file of a class lies in the directories that the segments of its package name, and two
classes share a file if and only if these segments and the names of their files agree. -/
theorem sourcePath_eq_iff (root : Path) (package package' name name' : String)
    (hpackage : '/' ∉ package.toList) (hpackage' : '/' ∉ package'.toList)
    (hname : '/' ∉ name.toList) (hname' : '/' ∉ name'.toList) :
    ∃ parts parts' file file', Package.CutsInto package parts ∧ Package.CutsInto package' parts' ∧
      Extended name file ∧ Extended name' file' ∧
      root.LiesBelow (parts.filter (· ≠ "")) file
        ((⟨root, {}⟩ : Project).sourcePath package name) ∧
      root.LiesBelow (parts'.filter (· ≠ "")) file'
        ((⟨root, {}⟩ : Project).sourcePath package' name') ∧
      ((⟨root, {}⟩ : Project).sourcePath package name
          = (⟨root, {}⟩ : Project).sourcePath package' name' ↔
        parts.filter (· ≠ "") = parts'.filter (· ≠ "") ∧ file = file') := by
  have hsegments : ∀ package, Package.segments package
      = (Text.pieces '.' package).filter (· ≠ "") := by
    intro package
    exact List.filter_congr fun part _ => by simp [bne, BEq.beq]
  have hbelow := Project.liesBelow_sourcePath root hpackage hname
  have hbelow' := Project.liesBelow_sourcePath root hpackage' hname'
  rw [hsegments] at hbelow hbelow'
  exact ⟨_, _, _, _, Project.cutsInto_pieces package, Project.cutsInto_pieces package',
    Project.extended_fileName root name, Project.extended_fileName root name', hbelow, hbelow',
    hbelow.eq_iff hbelow'⟩

/-- Points that are doubled, or at an end, and an extension that is there already. -/
theorem sourcePath_of_doubled_points :
    let project : Project := ⟨.ofText "../shop", {}⟩
    ('/' ∉ "..com..shop.".toList ∧ '/' ∉ "com.shop".toList ∧ '/' ∉ "Cart".toList ∧
      '/' ∉ "Cart.java".toList) ∧
    ∃ parts parts' file file', Package.CutsInto "..com..shop." parts ∧
      Package.CutsInto "com.shop" parts' ∧ Extended "Cart" file ∧ Extended "Cart.java" file' ∧
      project.root.LiesBelow (parts.filter (· ≠ "")) file
        (project.sourcePath "..com..shop." "Cart") ∧
      project.root.LiesBelow (parts'.filter (· ≠ "")) file'
        (project.sourcePath "com.shop" "Cart.java") ∧
      (project.sourcePath "..com..shop." "Cart" = project.sourcePath "com.shop" "Cart.java" ↔
        parts.filter (· ≠ "") = parts'.filter (· ≠ "") ∧ file = file') ∧
      project.sourcePath "..com..shop." "Cart" = project.sourcePath "com.shop" "Cart.java" := by
  intro project
  have hslashes : '/' ∉ "..com..shop.".toList ∧ '/' ∉ "com.shop".toList ∧ '/' ∉ "Cart".toList ∧
      '/' ∉ "Cart.java".toList := by
    decide
  obtain ⟨hpackage, hpackage', hname, hname'⟩ := hslashes
  obtain ⟨parts, parts', file, file', hparts, hparts', hfile, hfile', hbelow, hbelow', hiff⟩ :=
    sourcePath_eq_iff (.ofText "../shop") "..com..shop." "com.shop" "Cart" "Cart.java" hpackage
      hpackage' hname hname'
  exact ⟨⟨hpackage, hpackage', hname, hname'⟩, parts, parts', file, file', hparts, hparts', hfile,
    hfile', hbelow, hbelow', hiff, by decide⟩

end Groundwork
