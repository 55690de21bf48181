import Groundwork.Proofs.Name
import Groundwork.Proofs.Template.Lines
import Groundwork.Sheet.Project
import Groundwork.Template.Bundled.Project

/-!
# The settings of a new project

The settings name the dialect of a relational database where the project asks for the library that
uses it. No setting of the kind is there otherwise, and for a document database never.
-/

namespace Groundwork

open Template Text

/-- The settings of a text whose keys begin with `key`. -/
def settingsOf (key x : String) : List String :=
  (pieces '\n' x).filter (key.toList.isPrefixOf ·.toList)

def jpaKey : String := "spring.jpa."

namespace Database

variable {d : Database}

/-- The settings that a relational database needs with the library for it. -/
def jpaSettings (d : Database) : List String :=
  match d.connection with
  | some c =>
    ["spring.jpa.database-platform=" ++ c.dialect, "spring.jpa.hibernate.ddl-auto=update",
      "spring.jpa.show-sql=true"]
  | none => []

theorem no_end_binding {n : String} (hn : n ∈ d.bindings.map Prod.fst) :
    '\n' ∉ (Bindings.written d.bindings n).toList := by
  have hliteral (cs : List Char) (h : '\n' ∉ cs) : '\n' ∉ (String.ofList cs).toList := by
    rwa [String.toList_ofList]
  cases d <;> simp only [bindings, connection, List.map_cons, List.map_nil, List.mem_cons,
    List.not_mem_nil, or_false] at hn
  case mongodb =>
    subst hn
    exact hliteral _ (by decide)
  all_goals
    rcases hn with rfl | rfl | rfl | rfl | rfl
    all_goals exact hliteral _ (by decide)

end Database

namespace Template.Bundled

def settingsChoices (d : Database) (jpa : Bool) : Bindings :=
  [("database", .text d.name), ("uses_jpa", .bool jpa)]

/-- The settings for a relational database, as the template has them. -/
def jpaShapes : List Shape :=
  [[.own "spring.jpa.database-platform=".toList, .named "hibernate_dialect"],
    [.own "spring.jpa.hibernate.ddl-auto=update".toList], [.own "spring.jpa.show-sql=true".toList]]

/-- What is checked of the settings, whatever the choices are. -/
structure Configured (d : Database) (jpa : Bool) (shape : Shape) : Prop where
  ended : shape.lines.getLast? = some []
  spares : ∀ line ∈ shape.lines, line.spares ['\n']
  names : ∀ line ∈ shape.lines, ∀ n ∈ line.names,
    n = "artifact_id" ∨ n ∈ d.bindings.map Prod.fst
  told : ∀ line ∈ shape.lines, (line.begins? jpaKey.toList).isSome
  settings : shape.lines.filter (·.begins? jpaKey.toList = some true)
    = if jpa ∧ d ≠ .mongodb then jpaShapes else []

instance (d : Database) (jpa : Bool) (shape : Shape) : Decidable (Configured d jpa shape) :=
  decidable_of_iff (_ ∧ _ ∧ _ ∧ _ ∧ _) ⟨fun ⟨h₁, h₂, h₃, h₄, h₅⟩ => ⟨h₁, h₂, h₃, h₄, h₅⟩,
    fun h => ⟨h.ended, h.spares, h.names, h.told, h.settings⟩⟩

theorem properties_settle : ∃ sp : Spelling applicationProperties,
    ∀ d ∈ Database.all, ∀ jpa : Bool,
      (settle (settingsChoices d jpa) sp []).any fun shape => Configured d jpa shape :=
  ⟨by repeat' constructor, by decide +kernel⟩

end Template.Bundled

namespace ProjectSheet

open Template.Bundled

variable {b : Blueprint} {s : ProjectSheet} {inks : List Ink} {n : String}

theorem knows_settingsChoices (s : ProjectSheet) :
    Knows (settingsChoices s.database (s.dependencyNames.contains "jpa")) s.bindings := by
  intro n v h
  have hmem := mem_of_lookup h
  simp only [settingsChoices, List.mem_cons, List.not_mem_nil, or_false, Prod.mk.injEq] at hmem
  rcases hmem with ⟨rfl, rfl⟩ | ⟨rfl, rfl⟩ <;> rfl

/-- What is said of the database comes from the database alone. -/
theorem written_of_database (s : ProjectSheet) (hn : n ∈ s.database.bindings.map Prod.fst) :
    s.bindings.written n = Bindings.written s.database.bindings n := by
  have hbindings : s.bindings = s.bindings.take 15 ++ s.database.bindings := rfl
  have hnames : (s.bindings.take 15).map Prod.fst
      = ["project_name", "base_package", "group_id", "artifact_id", "main_class_name",
        "spring_boot_version", "java_version", "dependency_names", "dependencies", "database",
        "packaging", "include_docker", "include_gitignore", "include_readme", "uses_jpa"] := rfl
  have hother : ∀ d ∈ Database.all, ∀ n ∈ d.bindings.map Prod.fst,
      n ∉ (s.bindings.take 15).map Prod.fst := by
    rw [hnames]
    decide
  have hdatabase : s.database ∈ Database.all := by cases s.database <;> decide
  have hnone : (s.bindings.take 15).lookup n = none := by
    rw [List.lookup_eq_none_iff]
    intro p hp
    rw [bne_iff_ne]
    rintro rfl
    exact hother _ hdatabase _ hn (List.mem_map_of_mem hp)
  rw [hbindings, Bindings.written, Bindings.find?, List.lookup_append, hnone]
  rfl

/-- No value in the settings ends a line. -/
theorem no_end_setting (hs : Drawn b s)
    (hn : n = "artifact_id" ∨ n ∈ s.database.bindings.map Prod.fst) :
    '\n' ∉ (s.bindings.written n).toList := by
  rcases hn with rfl | hn
  · have hartifact : s.bindings.written "artifact_id" = s.artifact := rfl
    rw [hartifact, hs.artifact]
    intro hin
    rcases Name.isSlugChar_of_mem_slug hin with h | h
    · cases h
    · cases h
  · rw [s.written_of_database hn]
    exact Database.no_end_binding hn

theorem map_jpaShapes (h : s.database ≠ .mongodb) :
    jpaShapes.map (Shape.line s.bindings) = s.database.jpaSettings := by
  obtain ⟨c, hc⟩ : ∃ c, s.database.connection = some c := by
    cases hd : s.database
    case mongodb => exact absurd hd h
    all_goals exact ⟨_, rfl⟩
  have hdialect : s.bindings.written "hibernate_dialect" = c.dialect := by
    rw [s.written_of_database (by rw [Database.bindings, hc]; simp), Database.bindings, hc]
    rfl
  unfold jpaShapes Database.jpaSettings
  rw [hc]
  simp only [List.map_cons, List.map_nil, Shape.line_own, Shape.line_named, Shape.line_nil,
    String.ofList_toList, String.append_empty, hdialect]

/-- What the template of the settings prints for the library behind a relational database. -/
theorem settings_of_print (hs : Drawn b s)
    (hprint : applicationProperties.print s.bindings = .ok inks) :
    settingsOf jpaKey (Ink.text inks)
      = if "jpa" ∈ s.dependencyNames ∧ s.database ≠ .mongodb
        then s.database.jpaSettings else [] := by
  obtain ⟨sp, hall⟩ := properties_settle
  have hdatabase : s.database ∈ Database.all := by cases s.database <;> decide
  obtain ⟨shape, hshape, hconfigured⟩ := (Option.any_eq_true _ _).1
    (hall _ hdatabase (s.dependencyNames.contains "jpa"))
  have hc : Configured s.database (s.dependencyNames.contains "jpa") shape :=
    of_decide_eq_true hconfigured
  have htext : (Ink.text inks).toList = shape.chars s.bindings := by
    rw [settle_chars s.knows_settingsChoices sp hshape hprint, Shape.chars_nil, List.append_nil,
      Ink.text, String.toList_ofList]
  have hlines : ∀ line ∈ shape.lines, '\n' ∉ line.chars s.bindings := fun line hline =>
    Shape.not_mem_chars (hc.spares line hline) fun n hn =>
      s.no_end_setting hs (hc.names line hline n hn)
  rw [settingsOf, Shape.pieces_chars htext hc.ended hlines, Shape.filter_begins hc.told, hc.settings]
  by_cases hjpa : "jpa" ∈ s.dependencyNames ∧ s.database ≠ .mongodb
  · rw [if_pos hjpa, if_pos (by simpa using hjpa), s.map_jpaShapes hjpa.2]
  · rw [if_neg hjpa, if_neg (by simpa using hjpa)]
    rfl

end ProjectSheet

end Groundwork
