import Groundwork.Proofs.Dependency
import Groundwork.Proofs.Generate.NewBuildFile
import Groundwork.Proofs.Generate.Settings
import Groundwork.Proofs.Generate.Unfailing

/-!
# The parts of a new project agree on its libraries

Three places go by the libraries of a project: the list of its build file, what the build file
excludes from what is packed, and the settings. The list goes by the libraries that were looked up,
with the driver of the database among them, the others by the names that were asked for. They agree
because names are plain when they are looked up, and no driver has either name.
-/

namespace Groundwork

open Template Text Generate

namespace Dependency

/-- A library as a build file says it. -/
def coordinates (d : Dependency) : Coordinates where
  group := some d.group
  artifact := some d.artifact
  scope := d.scope
  optional := d.optional

/-- The library that the settings of a relational database are for. -/
def dataStarter : Dependency where
  name := "jpa"
  group := "org.springframework.boot"
  artifact := "spring-boot-starter-data-jpa"

def lombok : Dependency where
  name := "lombok"
  group := "org.projectlombok"
  artifact := "lombok"
  optional := true

theorem coordinatesOf_inner : ∀ d ∈ catalogue, coordinatesOf d.inner = d.coordinates := by
  decide +kernel

/-- What a build file says of a library has nothing of what it says of exclusions. -/
theorem not_excluding_inner : ∀ d ∈ catalogue, ∀ w ∈ [openTag "excludes", openTag "exclude"],
    ¬ w <:+: d.inner := by
  decide +kernel

theorem eq_of_artifact : ∀ d ∈ catalogue, ∀ d' ∈ catalogue, d.artifact = d'.artifact → d = d' := by
  decide

theorem eq_of_coordinates {d d' : Dependency} (hd : d ∈ catalogue) (hd' : d' ∈ catalogue)
    (h : d.coordinates = d'.coordinates) : d = d' :=
  eq_of_artifact d hd d' hd' (Option.some.inj (congrArg Coordinates.artifact h))

theorem mem_coordinates {d : Dependency} {ds : List Dependency} (hds : ∀ d ∈ ds, d ∈ catalogue)
    (hd : d ∈ catalogue) : d.coordinates ∈ ds.map coordinates ↔ d ∈ ds := by
  constructor
  · intro h
    obtain ⟨d', hd', hsame⟩ := List.mem_map.1 h
    rwa [← eq_of_coordinates (hds d' hd') hd hsame]
  · exact List.mem_map_of_mem

/-- The driver of a database. -/
theorem driver_library (db : Database) :
    ∃ d ∈ catalogue, ofName? db.driver = some d ∧ d.name = db.driver := by
  have hall : ∀ db ∈ Database.all, (ofName? db.driver).isSome := by decide
  have hdb : db ∈ Database.all := by cases db <;> decide
  obtain ⟨d, hd⟩ := Option.isSome_iff_exists.1 (hall db hdb)
  exact ⟨d, List.mem_of_find?_eq_some hd, hd, name_of_ofName? hd⟩

end Dependency

/-- The names of the libraries that a blueprint asks for, as they are written. -/
def Blueprint.askedNames (b : Blueprint) : Except Value.Misuse (List String) :=
  let asked := b.option "dependencies" .null
  if asked.holds then asked.items.bind Dependency.namesOf
  else .ok (Dependency.usual (.ofValue (b.option "database" .null)))

namespace ProjectSheet

open Template.Bundled

variable {b : Blueprint} {s : ProjectSheet} {before after x : List Char} {w : List Char}

/-- A project has the names that were asked for, in plain form. -/
theorem asked (h : ofBlueprint b = .ok s) :
    ∃ names, b.askedNames = .ok names ∧ s.dependencyNames = Dependency.normalize names := by
  unfold ofBlueprint at h
  dsimp only at h
  split at h
  · cases h
  unfold Blueprint.askedNames
  dsimp only
  split at h
  · rename_i hholds
    rw [Dependency.normalizeValue_eq] at h
    cases hnames : (b.option "dependencies" .null).items.bind Dependency.namesOf with
    | error misuse =>
      rw [hnames] at h
      cases h
    | ok names =>
      rw [hnames] at h
      cases h
      exact ⟨names, if_pos hholds, rfl⟩
  · rename_i hnone
    cases h
    exact ⟨_, if_neg hnone, rfl⟩

/-- The libraries of a project are those that were asked for, and the driver of its database. -/
theorem resolution_of_asked {names : List String}
    (h : s.dependencyNames = Dependency.normalize names) :
    s.resolution = Dependency.resolve names s.database := by
  rw [resolution, h, Dependency.resolve_normalize]

/-- A name that no driver has is among the names where its library is among the libraries. -/
theorem mem_names (h : ofBlueprint b = .ok s) {d : Dependency} (hd : d ∈ Dependency.catalogue)
    (hdriver : ∀ db ∈ Database.all, d.name ≠ db.driver) :
    d.name ∈ s.dependencyNames ↔ d ∈ s.resolution.dependencies := by
  obtain ⟨names, -, hnames⟩ := asked h
  have hdb : s.database ∈ Database.all := by cases s.database <;> decide
  rw [resolution, Dependency.mem_resolve hd, hnames, Dependency.normalize_normalize]
  exact (or_iff_left (hdriver _ hdb)).symm

theorem driver_mem (s : ProjectSheet) : ∃ d ∈ s.resolution.dependencies,
    Dependency.ofName? s.database.driver = some d := by
  obtain ⟨d, hd, hfound, hname⟩ := Dependency.driver_library s.database
  exact ⟨d, (Dependency.mem_resolve hd).2 (.inr hname), hfound⟩

section Reading

variable (h : Parted s before after) (hplain : ∀ t ∈ s.texts, '<' ∉ t.toList)

include h hplain

/-- No tag comes from a value. -/
theorem Parted.absent (hw : w ∈ frontWords) (htag : '<' ∈ w) : ¬ w <:+: before := by
  rw [h.values w hw]
  rintro ⟨t, ht, hin⟩
  exact hplain t ht (hin.subset htag)

theorem Parted.proper {back : List Char} (hended : Ended back)
    (hnone : ∀ a ∈ Generate.libraries, ¬ a.toList <:+: back) :
    (s.layout (before ++ "    ".toList) back).Proper := by
  have htags : ∀ w ∈ listTags, w ∈ frontWords ∧ '<' ∈ w := by decide
  exact proper_layout (fun w hw => h.absent hplain (htags w hw).1 (htags w hw).2) hended hnone

/-- What a build file has in front of its exclusions does not read like them. -/
theorem Parted.untagged (hw : w ∈ [openTag "excludes", openTag "exclude"]) :
    Untagged w (s.layout (before ++ "    ".toList) ['\n']).text := by
  have hword : ∀ w ∈ [openTag "excludes", openTag "exclude"],
      w ∈ frontWords ∧ '<' ∈ w ∧ ' ' ∉ w ∧ '\n' ∉ w := by
    decide
  have hfindable : ∀ w ∈ [openTag "excludes", openTag "exclude"], Layout.Findable w := by
    decide +kernel
  have hgaps : ∀ w ∈ [openTag "excludes", openTag "exclude"],
      ∀ gap ∈ ["\n        ".toList, "\n    ".toList, ['\n']], ¬ w <:+: gap := by
    decide +kernel
  have hline : ∀ a ∈ Generate.libraries, ¬ a.toList <:+: ['\n'] := by decide +kernel
  obtain ⟨hfront, htag, hblank, hend⟩ := hword w hw
  have hproper := h.proper hplain (.inr rfl) hline
  refine ⟨fun hin => ?_, ?_⟩
  · rcases (hproper.infix_text_iff (hfindable w hw)).1 hin with hin | ⟨e, he, hin⟩ | hin | hin
    · rw [layout, infix_blanks (hfindable w hw).ne_nil hblank] at hin
      exact h.absent hplain hfront htag hin
    · obtain ⟨d, hd, rfl⟩ := List.mem_map.1 he
      rcases hin with hin | hin
      · exact hgaps w hw "\n        ".toList (by decide) hin
      · exact Dependency.not_excluding_inner d (mem_catalogue hd) w hw hin
    · exact hgaps w hw "\n    ".toList (by decide) hin
    · exact hgaps w hw ['\n'] (by decide) hin
  · have hended : Ended (s.layout (before ++ "    ".toList) ['\n']).text := by
      rw [Layout.text, ← List.append_assoc, ← List.append_assoc, ← List.append_assoc]
      exact Ended.append (.inr rfl) _
    exact hended.blunt hblank hend

/-- The libraries of a build file, and what it excludes, are read as they were written. -/
theorem Parted.reads (hx : x = (s.layout (before ++ "    ".toList) ('\n' :: after)).text) :
    dependenciesOf x = s.resolution.dependencies.map Dependency.inner ∧
      (openTag "excludes" <:+: x ↔ "lombok" ∈ s.dependencyNames) ∧
      exclusionOf x = if "lombok" ∈ s.dependencyNames then some exclusion else none := by
  have hsplit : x = (s.layout (before ++ "    ".toList) ['\n']).text ++ after := by
    rw [hx]
    simp [Layout.text, Layout.items, layout]
  have hmem : s.dependencyNames.contains "lombok" = true ↔ "lombok" ∈ s.dependencyNames :=
    List.contains_iff_mem
  refine ⟨?_, ?_, ?_⟩
  · rw [hx, (h.proper hplain h.ended h.libraries).dependenciesOf, layout, List.map_map]
    rfl
  · have huntagged := h.untagged hplain (w := openTag "excludes") (by decide)
    rw [hsplit, infix_append_iff (huntagged.blunt.uncut after), or_iff_right huntagged.absent,
      ← cutFirst?_isSome, h.excludes, hmem]
  · have huntagged := h.untagged hplain (w := openTag "exclude") (by decide)
    rw [hsplit, exclusionOf, firstElement?_skip huntagged, ← exclusionOf, h.excluded]
    simp only [hmem]

end Reading

end ProjectSheet

/-- What a build file says of its libraries. -/
def librariesOf (buildFile : String) : List Coordinates :=
  (dependenciesOf buildFile.toList).map coordinatesOf

/-- A build file and settings that agree on the libraries of a project, which are those of the
given names. -/
structure ProjectSheet.AgreeOn (s : ProjectSheet) (names : List String)
    (buildFile settings : String) : Prop where
  libraries : librariesOf buildFile
    = (Dependency.resolve names s.database).dependencies.map Dependency.coordinates
  distinct : ((librariesOf buildFile).map Coordinates.artifact).Nodup
  driver : ∃ d, Dependency.ofName? s.database.driver = some d ∧
    (librariesOf buildFile).count d.coordinates = 1
  excludes : openTag "excludes" <:+: buildFile.toList ↔
    Dependency.lombok.coordinates ∈ librariesOf buildFile
  exclusion : exclusionOf buildFile.toList
    = if Dependency.lombok.coordinates ∈ librariesOf buildFile then some exclusion else none
  settings : settingsOf jpaKey settings
    = if Dependency.dataStarter.coordinates ∈ librariesOf buildFile ∧ s.database ≠ .mongodb
      then s.database.jpaSettings else []

/-- The printed parts of a project agree. -/
theorem ProjectSheet.agreeOn_of_print {b : Blueprint} {s : ProjectSheet} {names : List String}
    {inks inks' : List Ink} (hs : ofBlueprint b = .ok s)
    (hnames : s.dependencyNames = Dependency.normalize names)
    (hplain : ∀ t ∈ s.texts, '<' ∉ t.toList)
    (hprint : Bundled.buildFile.print s.bindings = .ok inks)
    (hprint' : Bundled.applicationProperties.print s.bindings = .ok inks') :
    s.AgreeOn names (Ink.text inks) (Ink.text inks') := by
  obtain ⟨before, after, hparted, htext⟩ := parted_of_print hprint
  obtain ⟨hdependencies, hexcludes, hexclusion⟩ := hparted.reads hplain htext
  have hcatalogue : ∀ d ∈ s.resolution.dependencies, d ∈ Dependency.catalogue :=
    fun d hd => mem_catalogue hd
  have hlibraries : librariesOf (Ink.text inks)
      = s.resolution.dependencies.map Dependency.coordinates := by
    rw [librariesOf, Ink.text, String.toList_ofList, hdependencies, List.map_map]
    exact List.map_congr_left fun d hd => Dependency.coordinatesOf_inner d (hcatalogue d hd)
  have hmem {d : Dependency} (hd : d ∈ Dependency.catalogue)
      (hdriver : ∀ db ∈ Database.all, d.name ≠ db.driver) :
      d.coordinates ∈ librariesOf (Ink.text inks) ↔ d.name ∈ s.dependencyNames := by
    rw [hlibraries, Dependency.mem_coordinates hcatalogue hd, mem_names hs hd hdriver]
  have hlombok := hmem (d := .lombok) (by decide) (by decide)
  have hstarter := hmem (d := .dataStarter) (by decide) (by decide)
  have hnodup : (librariesOf (Ink.text inks)).Nodup := by
    rw [hlibraries]
    exact List.Nodup.map_on (fun d hd d' hd' hsame =>
      Dependency.eq_of_coordinates (hcatalogue d hd) (hcatalogue d' hd') hsame)
      (Dependency.nodup_resolve _ _)
  have hchars : (Ink.text inks).toList = inks.map Ink.char := by
    rw [Ink.text, String.toList_ofList]
  constructor
  case libraries => rw [hlibraries, resolution_of_asked hnames]
  case distinct =>
    rw [hlibraries, List.map_map]
    exact List.Nodup.map_on (fun d hd d' hd' hsame => Dependency.eq_of_artifact d
      (hcatalogue d hd) d' (hcatalogue d' hd') (Option.some.inj hsame))
      (Dependency.nodup_resolve _ _)
  case driver =>
    obtain ⟨d, hd, hfound⟩ := s.driver_mem
    refine ⟨d, hfound, List.count_eq_one_of_mem hnodup ?_⟩
    rw [hlibraries]
    exact List.mem_map_of_mem hd
  case excludes => rw [hchars, hlombok]; exact hexcludes
  case exclusion =>
    rw [hchars, hexclusion]
    exact ite_congr (propext hlombok.symm) (fun _ => rfl) fun _ => rfl
  case settings =>
    rw [settings_of_print (drawn hs) hprint']
    exact ite_congr (propext (and_congr_left' hstarter.symm)) (fun _ => rfl) fun _ => rfl

/-- A new project without tags in its texts has the libraries that were asked for, and the driver of
its database, each once. Its build file keeps the one library out of what is packed exactly where it
has it, and its settings are for a relational database exactly where it has the library for one and
its database is not the other kind. -/
theorem project_parts_agree (b : Blueprint) (s : ProjectSheet)
    (hsheet : Sheet.ofBlueprint b = .ok (.project s)) (hplain : ∀ t ∈ s.texts, '<' ∉ t.toList)
    (tree : Tree) :
    ∃ names buildFile settings, b.askedNames = .ok names ∧
      Store.bundled.render tree "project/pom.xml.j2" s.bindings = .ok buildFile ∧
      Store.bundled.render tree "project/application.properties.j2" s.bindings = .ok settings ∧
      s.AgreeOn names buildFile settings := by
  have hs : ProjectSheet.ofBlueprint b = .ok s := by
    cases Sheet.from_of_ok hsheet with
    | project h => exact h
  obtain ⟨names, hasked, hnames⟩ := ProjectSheet.asked hs
  have htemplates : ∀ name ∈ ["project/pom.xml.j2", "project/application.properties.j2"],
      name ∈ Artifact.project.templates := by
    decide
  have hrenders (name : String) (h : name ∈ Artifact.project.templates) :=
    Sheet.renders (s := .project s) h tree
  obtain ⟨buildFile, hbuild⟩ := hrenders "project/pom.xml.j2" (htemplates _ (by decide))
  obtain ⟨settings, hsettings⟩ :=
    hrenders "project/application.properties.j2" (htemplates _ (by decide))
  refine ⟨names, buildFile, settings, hasked, hbuild, hsettings, ?_⟩
  obtain ⟨inks, hprint, rfl⟩ := Bundled.print_of_render rfl hbuild
  obtain ⟨inks', hprint', rfl⟩ := Bundled.print_of_render rfl hsettings
  exact ProjectSheet.agreeOn_of_print hs hnames hplain hprint hprint'

/-- A shop whose libraries are asked for in any case, with blanks, twice, and one that is unknown. -/
def untidyShop : Blueprint where
  kind := .project
  name := "Shop"
  package := "com.shop"
  options :=
    [("dependencies", .list [.text "WEB", .text " Lombok ", .text "web", .text "Jpa", .text "kafka"]),
      ("database", .text "mysql")]

theorem untidyShop_parts_agree :
    ∃ s, Sheet.ofBlueprint untidyShop = .ok (.project s) ∧ (∀ t ∈ s.texts, '<' ∉ t.toList) ∧
      ∀ tree, ∃ names buildFile settings, untidyShop.askedNames = .ok names ∧
        Store.bundled.render tree "project/pom.xml.j2" s.bindings = .ok buildFile ∧
        Store.bundled.render tree "project/application.properties.j2" s.bindings = .ok settings ∧
        s.AgreeOn names buildFile settings := by
  have hok : (ProjectSheet.ofBlueprint untidyShop).toOption.any fun s =>
      decide (∀ t ∈ s.texts, '<' ∉ t.toList) := by
    decide +kernel
  obtain ⟨s, hs, hall⟩ := (Option.any_eq_true _ _).1 hok
  have hplain := of_decide_eq_true hall
  have hsheet := Sheet.ok_of_project rfl (if_neg (by decide +kernel)) (ok_of_toOption hs)
  exact ⟨s, hsheet, hplain, project_parts_agree untidyShop s hsheet hplain⟩

end Groundwork
