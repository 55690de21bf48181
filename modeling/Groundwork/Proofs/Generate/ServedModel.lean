import Groundwork.Proofs.Generate.Unfailing
import Groundwork.Proofs.Name.Lettering
import Groundwork.Proofs.Template.Imports

/-!
# The model that an artifact serves

Where the model of a controller, a service or a repository is not given, it is taken from the
artifact's own name, which is the name of the model with an ending. The classes and variables that
go with the model have names that follow from its name, and every source of the artifact imports it.
An artifact whose name is nothing but the ending has a model without a name.
-/

namespace Groundwork

open Template

namespace Name

variable {letters : Lettering} {name suffix : String}

/-- The model with the ending is the artifact, or the artifact has another name. -/
theorem served_cases (name : String) (hsuffix : suffix ≠ "") :
    served name suffix ++ suffix = name ∨
      (∀ stem, name ≠ stem ++ suffix) ∧ served name suffix = name ++ "Model" := by
  rw [served, if_neg hsuffix]
  cases hdrop : Text.dropEnding? name suffix with
  | some stem => exact .inl (Text.dropEnding?_eq_some.1 hdrop).symm
  | none => exact .inr ⟨Text.dropEnding?_eq_none.1 hdrop, rfl⟩

theorem served_eq_iff (hsuffix : suffix ≠ "") {w : String} (hw : ∀ c ∈ w.toList, ¬ c.isUpper) :
    served name suffix = w ↔ name = w ++ suffix := by
  constructor
  · rintro rfl
    rcases served_cases name hsuffix with hname | ⟨-, hmodel⟩
    · exact hname.symm
    · refine absurd (by decide : 'M'.isUpper = true) (hw 'M' ?_)
      simp [hmodel]
  · rintro rfl
    rw [served, if_neg hsuffix, Text.dropEnding?_eq_some.2 rfl, Option.getD_some]

/-- The model of an artifact with a name has a name, unless nothing or a reserved word is left of
the artifact's name. -/
theorem names_served_iff (hname : letters.Spells name) (hsuffix : suffix ≠ "") :
    letters.Names (served name suffix) ↔ ∀ w ∈ "" :: reserved, name ≠ w ++ suffix := by
  have hsmall : ∀ w ∈ "" :: reserved, ∀ c ∈ w.toList, ¬ c.isUpper := by
    rintro w hw
    rcases List.mem_cons.1 hw with rfl | hw
    · nofun
    · exact fun c => small_of_reserved hw
  constructor
  · intro h w hw hartifact
    have hserved := (served_eq_iff hsuffix (hsmall w hw)).2 hartifact
    rw [hserved] at h
    rcases List.mem_cons.1 hw with rfl | hw
    · exact h.ne_empty rfl
    · exact h.free hw
  · intro h
    have hfree : served name suffix ∉ "" :: reserved := fun hmem =>
      h _ hmem ((served_eq_iff hsuffix (hsmall _ hmem)).1 rfl)
    rw [List.mem_cons, not_or] at hfree
    refine ⟨?_, hfree.2⟩
    rcases served_cases name hsuffix with hartifact | ⟨-, hmodel⟩
    · rw [← hartifact] at hname
      exact hname.of_append hfree.1
    · rw [hmodel]
      exact hname.append (List.all_eq_true.1 (by decide))

theorem lowerFirst_ne_empty (h : name ≠ "") : lowerFirst name ≠ "" := by
  obtain ⟨c, rest, hname⟩ := List.exists_cons_of_ne_nil (mt String.toList_eq_nil_iff.1 h)
  rw [lowerFirst, hname, onFirst, ne_eq, String.ofList_eq_empty_iff, List.append_eq_nil_iff]
  exact fun hnil => Text.CaseMap.lowerChar_ne_nil c hnil.1

theorem append_ne_empty (hsuffix : suffix ≠ "") : name ++ suffix ≠ "" :=
  fun h => hsuffix (String.append_eq_empty_iff.1 h).2

end Name

namespace Artifact

/-- The ending of an artifact's own name, behind the model that it serves. -/
def ending? : Artifact → Option String
  | controller => some "Controller"
  | service => some "Service"
  | repository => some "Repository"
  | model | security | project => none

/-- The names that follow from that of the model: of a variable that holds one, of the class that
is asked for them, with a variable for it, and of the path that they are served at. -/
def followers : Artifact → List (String × (String → String))
  | controller =>
    [("model_instance_name", Name.lowerFirst), ("service_name", (· ++ "Service")),
      ("service_instance_name", fun model => Name.lowerFirst (model ++ "Service")),
      ("resource_path", Name.collection)]
  | service =>
    [("model_instance_name", Name.lowerFirst), ("repository_name", (· ++ "Repository")),
      ("repository_instance_name", fun model => Name.lowerFirst (model ++ "Repository"))]
  | repository => [("model_instance_name", Name.lowerFirst)]
  | model | security | project => []

variable {kind : Artifact} {suffix : String}

theorem ending_ne_empty (h : kind.ending? = some suffix) : suffix ≠ "" := by
  cases kind <;> cases h <;> decide

/-- The names that follow from the name of a model are there when the model has one. -/
theorem follower_ne_empty {key model : String} {follow : String → String}
    (h : (key, follow) ∈ kind.followers) (hmodel : model ≠ "") : follow model ≠ "" := by
  have hlower (ending : String) : Name.lowerFirst (model ++ ending) ≠ "" := by
    refine Name.lowerFirst_ne_empty fun hempty => hmodel ?_
    exact (String.append_eq_empty_iff.1 hempty).1
  cases kind <;>
    simp only [followers, List.mem_cons, List.not_mem_nil, or_false, Prod.mk.injEq] at h
  case controller =>
    rcases h with ⟨-, rfl⟩ | ⟨-, rfl⟩ | ⟨-, rfl⟩ | ⟨-, rfl⟩
    · exact Name.lowerFirst_ne_empty hmodel
    · exact Name.append_ne_empty (by decide)
    · exact hlower _
    · exact Name.append_ne_empty (by decide)
  case service =>
    rcases h with ⟨-, rfl⟩ | ⟨-, rfl⟩ | ⟨-, rfl⟩
    · exact Name.lowerFirst_ne_empty hmodel
    · exact Name.append_ne_empty (by decide)
    · exact hlower _
  case repository =>
    obtain ⟨-, rfl⟩ := h
    exact Name.lowerFirst_ne_empty hmodel

end Artifact

namespace Template.Bundled

/-- Every source of an artifact that serves a model imports it. -/
theorem model_referred : ∀ kind ∈ Artifact.all, kind.ending?.isSome →
    ∀ template ∈ kind.templates, ∃ entry ∈ references, entry.1 = template ∧
      ∀ refs ∈ entry.2, ⟨"model_package", .named "model_name"⟩ ∈ refs := by
  decide

end Template.Bundled

namespace Blueprint

variable {b : Blueprint} {suffix : String}

theorem modelName_of_none (h : b.option? "model_name" = none) :
    b.modelName suffix = .text (Name.served b.title suffix) := by
  rw [modelName, h]

end Blueprint

namespace Sheet

variable {b : Blueprint} {s : Sheet} {suffix : String}

/-- There is a sheet for every name, unless the base path of a controller is no text. -/
theorem exists_of_ending (hending : b.kind.ending? = some suffix)
    (hmodel : b.option? "model_name" = none) (htitle : b.title ≠ "")
    (hpath : b.kind = .controller →
      ∃ path, b.option "base_path" (.text ControllerSheet.usualBasePath) = .text path) :
    ∃ s, ofBlueprint b = .ok s := by
  have hname : b.requireName = .ok () := by
    rw [Blueprint.requireName, if_neg (mt (Text.allBlank_iff_trim b.name).1 htitle)]
  unfold ofBlueprint
  rw [hname]
  cases hkind : b.kind <;> rw [hkind] at hending <;> cases hending
  case controller =>
    obtain ⟨path, hpath⟩ := hpath hkind
    unfold ControllerSheet.ofBlueprint
    rw [Blueprint.modelName_of_none hmodel, hpath]
    exact ⟨_, rfl⟩
  case service =>
    unfold ServiceSheet.ofBlueprint
    rw [Blueprint.modelName_of_none hmodel]
    exact ⟨_, rfl⟩
  case repository =>
    unfold RepositorySheet.ofBlueprint
    rw [Blueprint.modelName_of_none hmodel]
    exact ⟨_, rfl⟩

/-- The names of the model and those that follow from it, as the templates are given them. -/
theorem bindings_of_ending (hending : b.kind.ending? = some suffix)
    (hmodel : b.option? "model_name" = none) (h : ofBlueprint b = .ok s) :
    s.bindings.find? "model_name" = some (.text (Name.served b.title suffix)) ∧
      ∀ entry ∈ b.kind.followers,
        s.bindings.find? entry.1 = some (.text (entry.2 (Name.served b.title suffix))) := by
  have hkind := kind_of_ofBlueprint h
  rw [← hkind] at hending ⊢
  cases from_of_ok h with
  | model | security | project => cases hending
  | controller hs =>
    cases hending
    obtain ⟨-, -, hserved, -⟩ := ControllerSheet.eq_of_ok hs
    rw [Blueprint.modelName_of_none hmodel, Value.written_text] at hserved
    rw [← hserved]
    refine ⟨rfl, ?_⟩
    simp only [kind, Artifact.followers, List.forall_mem_cons]
    exact ⟨rfl, rfl, rfl, rfl, List.forall_mem_nil _⟩
  | service hs =>
    cases hending
    obtain ⟨-, -, hserved, -⟩ := ServiceSheet.eq_of_ok hs
    rw [Blueprint.modelName_of_none hmodel, Value.written_text] at hserved
    rw [← hserved]
    refine ⟨rfl, ?_⟩
    simp only [kind, Artifact.followers, List.forall_mem_cons]
    exact ⟨rfl, rfl, rfl, List.forall_mem_nil _⟩
  | repository hs =>
    cases hending
    obtain ⟨-, -, hserved, -⟩ := RepositorySheet.eq_of_ok hs
    rw [Blueprint.modelName_of_none hmodel, Value.written_text] at hserved
    rw [← hserved]
    refine ⟨rfl, ?_⟩
    simp only [kind, Artifact.followers, List.forall_mem_cons]
    exact ⟨rfl, List.forall_mem_nil _⟩

/-- Every source of the artifact has a line that imports the model. -/
theorem imports_model (hending : b.kind.ending? = some suffix)
    (hmodel : b.option? "model_name" = none) (h : ofBlueprint b = .ok s) {template : String}
    (htemplate : template ∈ b.kind.templates) (tree : Tree) :
    ∃ x lines, Store.bundled.render tree template s.bindings = .ok x ∧
      x.toList = Text.linesText lines ∧
      importLine (s.bindings.written "model_package") (Name.served b.title suffix) ∈ lines := by
  have hall : b.kind ∈ Artifact.all := by
    cases b.kind <;> decide
  have hsome : b.kind.ending?.isSome := by
    rw [hending]
    rfl
  obtain ⟨entry, hmem, rfl, hrefers⟩ := Bundled.model_referred _ hall hsome template htemplate
  obtain ⟨source, hlookup, himporting⟩ := Bundled.importing_of_mem entry hmem
  obtain ⟨x, hx⟩ := renders (kind_of_ofBlueprint h ▸ htemplate) tree
  obtain ⟨inks, hprint, rfl⟩ := Bundled.print_of_render hlookup hx
  obtain ⟨refs, hrefs, lines, htext, hlines⟩ := lines_of_print himporting hprint
  refine ⟨_, lines, hx, htext, ?_⟩
  have hwritten : s.bindings.written "model_name" = Name.served b.title suffix := by
    rw [Bindings.written, (bindings_of_ending hending hmodel h).1]
    rfl
  have hline := hlines _ (hrefers refs hrefs)
  simpa [Reference.written, Piece.inks, hwritten] using hline

end Sheet

/-- Where its model is not given, an artifact with a name serves the model that its name says, or
one named after it; and the model has a name too, unless nothing or a reserved word is left of that
of the artifact. All that follows from the name of the model is named, and every source imports the
model. -/
theorem served_model_named (letters : Name.Lettering) (b : Blueprint) (suffix : String)
    (hending : b.kind.ending? = some suffix) (hmodel : b.option? "model_name" = none)
    (htitle : letters.Spells b.title) :
    ((b.kind = .controller →
        ∃ path, b.option "base_path" (.text ControllerSheet.usualBasePath) = .text path) →
      ∃ s, Sheet.ofBlueprint b = .ok s) ∧
    ∀ s, Sheet.ofBlueprint b = .ok s →
      ∃ model, s.bindings.find? "model_name" = some (.text model) ∧
        (model ++ suffix = b.title ∨
          (∀ stem, b.title ≠ stem ++ suffix) ∧ model = b.title ++ "Model") ∧
        (letters.Names model ↔ ∀ w ∈ "" :: Name.reserved, b.title ≠ w ++ suffix) ∧
        (model = "" ↔ b.title = suffix) ∧
        (∀ entry ∈ b.kind.followers, s.bindings.find? entry.1 = some (.text (entry.2 model)) ∧
          (model ≠ "" → entry.2 model ≠ "")) ∧
        ∀ template ∈ b.kind.templates, ∀ tree, ∃ x lines,
          Store.bundled.render tree template s.bindings = .ok x ∧
          x.toList = Text.linesText lines ∧
          importLine (s.bindings.written "model_package") model ∈ lines := by
  have hsuffix := Artifact.ending_ne_empty hending
  refine ⟨Sheet.exists_of_ending hending hmodel htitle.ne_empty, fun s hs => ?_⟩
  obtain ⟨hserved, hfollowers⟩ := Sheet.bindings_of_ending hending hmodel hs
  have hempty : Name.served b.title suffix = "" ↔ b.title = "" ++ suffix :=
    Name.served_eq_iff hsuffix nofun
  rw [String.empty_append] at hempty
  exact ⟨Name.served b.title suffix, hserved, Name.served_cases b.title hsuffix,
    Name.names_served_iff htitle hsuffix, hempty,
    fun entry hentry => ⟨hfollowers entry hentry, Artifact.follower_ne_empty hentry⟩,
    fun template htemplate tree => Sheet.imports_model hending hmodel hs htemplate tree⟩

/-- The repository of orders. -/
theorem served_model_named_orders :
    let b : Blueprint := { kind := .repository, name := " OrderRepository", package := "com.shop" }
    ∃ s, Sheet.ofBlueprint b = .ok s ∧
      s.bindings.find? "model_name" = some (.text "Order") ∧
      Name.Lettering.plain.Names "Order" := by
  intro b
  have htitle : b.title = "OrderRepository" := by decide
  have hspells : Name.Lettering.plain.Spells b.title := by
    rw [htitle]
    exact ⟨by decide, List.all_eq_true.1 (by decide)⟩
  obtain ⟨hexists, hall⟩ := served_model_named .plain b "Repository" rfl rfl hspells
  obtain ⟨s, hs⟩ := hexists nofun
  obtain ⟨model, hmodel, hshape, hnames, -⟩ := hall s hs
  rw [htitle] at hshape hnames
  have horder : model = "Order" := by
    rcases hshape with hstem | ⟨hother, -⟩
    · have hdrop := Text.dropEnding?_eq_some.2 hstem.symm
      have hvalue : Text.dropEnding? "OrderRepository" "Repository" = some "Order" := by
        decide
      exact Option.some.inj (hdrop.symm.trans hvalue)
    · exact absurd (by decide : "OrderRepository" = "Order" ++ "Repository") (hother "Order")
  subst horder
  exact ⟨s, hs, hmodel, hnames.2 (by decide)⟩

/-- A controller that is named like the ending of its kind serves a model without a name. -/
theorem bare_controller_unnamed :
    let b : Blueprint := { kind := .controller, name := "Controller", package := "com.shop" }
    b.option? "model_name" = none ∧ Name.Lettering.plain.Names b.title ∧
      ∃ s, Sheet.ofBlueprint b = .ok s ∧
        s.bindings.find? "model_name" = some (.text "") ∧
        s.bindings.find? "model_instance_name" = some (.text "") ∧
        ¬ Name.Lettering.plain.Names "" := by
  intro b
  have htitle : b.title = "Controller" := by decide
  have hnames : Name.Lettering.plain.Names b.title := by
    rw [htitle]
    exact ⟨⟨by decide, List.all_eq_true.1 (by decide)⟩, by decide⟩
  have hending : b.kind.ending? = some "Controller" := rfl
  obtain ⟨s, hs⟩ := Sheet.exists_of_ending hending rfl hnames.ne_empty fun _ => ⟨_, rfl⟩
  obtain ⟨hmodel, hfollowers⟩ := Sheet.bindings_of_ending hending rfl hs
  have hserved : Name.served b.title "Controller" = "" := by decide
  have hvariable := hfollowers _ List.mem_cons_self
  rw [hserved] at hmodel hvariable
  exact ⟨rfl, hnames, s, hs, hmodel, hvariable, fun h => h.ne_empty rfl⟩

end Groundwork
