import Groundwork.Proofs.Generate.Placement
import Groundwork.Proofs.Generate.ProjectNames
import Groundwork.Proofs.Generate.Unfailing
import Groundwork.Proofs.Name.Lettering

/-!
# The main class of a project

The main class is named after the words of the project, with an ending that tells it as the entry
point. So it is made of letters and digits, whatever stands between them in the name of the project.
It begins with the first of them, which may be a digit, and then it is no name of a class.
-/

namespace Groundwork

namespace Name

variable {letters : Lettering} {text stem ending : String} {c : Char}

/-- The words of a text, joined to a class, begin with its first letter or digit. -/
theorem head?_pascal (text : String) :
    (pascal text).toList.head? = (text.toList.find? isWordChar).map Char.toUpper := by
  rw [pascal, String.toList_ofList, ← List.head?_filter, ← Text.flatten_runs]
  cases hruns : Text.runs isWordChar text.toList with
  | nil => rfl
  | cons word later =>
    have hword := Text.word_of_mem_runs (hruns ▸ List.mem_cons_self : word ∈ Text.runs _ _)
    obtain ⟨c, rest, rfl⟩ := List.exists_cons_of_ne_nil hword.ne_nil
    rfl

/-- Letters and digits with an ending that has a capital letter make a name if they begin with a
letter. -/
theorem names_iff_of_word (hstem : ∀ c ∈ stem.toList, isWordChar c)
    (hending : ∀ c ∈ ending.toList, isWordChar c) (hcapital : ending.toList.any Char.isUpper)
    (hc : stem.toList.head? = some c) : letters.Names (stem ++ ending) ↔ c.isAlpha := by
  have hhead : (stem ++ ending).toList.head? = some c := by
    rw [String.toList_append, List.head?_append, hc, Option.some_or]
  rw [← letters.first_iff_isAlpha (hstem c (List.mem_of_head? hc))]
  constructor
  · intro h
    have hfirst := h.first
    rwa [hhead] at hfirst
  · intro h
    obtain ⟨d, hd, hupper⟩ := List.any_eq_true.1 hcapital
    refine ⟨⟨?_, fun e he => letters.part_of_isWordChar ?_⟩, fun hreserved =>
      small_of_reserved hreserved ?_ hupper⟩
    · rw [hhead]
      exact h
    · rw [String.toList_append, List.mem_append] at he
      exact he.elim (hstem e) (hending e)
    · rw [String.toList_append, List.mem_append]
      exact .inr hd

end Name

open Name

namespace ProjectSheet

open Template

variable {b : Blueprint} {s : ProjectSheet} {letters : Lettering} {c : Char}
  {template name : String}

theorem mainClass_of_ok (hs : Sheet.ofBlueprint b = .ok (.project s)) :
    s.mainClass = pascal b.title ++ "Application" := by
  rw [mainClass, (drawn (Sheet.project_of_ok hs)).classPrefix]

theorem isWordChar_of_mem_classPrefix (hs : s.Drawn b) (h : c ∈ s.classPrefix.toList) :
    isWordChar c := by
  rw [hs.classPrefix] at h
  exact isWordChar_of_mem_pascal h

/-- The classes of a project begin with the first letter or digit of its name. -/
theorem exists_first (hs : s.Drawn b) : ∃ c, b.title.toList.find? isWordChar = some c ∧
    isWordChar c ∧ s.classPrefix.toList.head? = some c.toUpper := by
  have hhead := head?_pascal b.title
  rw [← hs.classPrefix] at hhead
  cases hfind : b.title.toList.find? isWordChar with
  | none =>
    rw [hfind, Option.map_none, List.head?_eq_none_iff, String.toList_eq_nil_iff] at hhead
    exact absurd hhead hs.classPrefix_ne
  | some c =>
    rw [hfind, Option.map_some] at hhead
    exact ⟨c, rfl, List.find?_some hfind, hhead⟩

theorem head?_mainClass (h : s.classPrefix.toList.head? = some c) :
    s.mainClass.toList.head? = some c := by
  rw [mainClass, String.toList_append, List.head?_append, h, Option.some_or]

/-- The sources of a project, with the names of their classes. -/
def classes (s : ProjectSheet) : List (String × String) :=
  [("project/main.java.j2", s.mainClass), ("project/test.java.j2", s.mainClass ++ "Tests")]

theorem names_of_classes (hs : s.Drawn b) (hc : s.classPrefix.toList.head? = some c)
    (h : (template, name) ∈ s.classes) : letters.Names name ↔ c.isAlpha := by
  simp only [classes, List.mem_cons, List.not_mem_nil, or_false, Prod.mk.injEq] at h
  rcases h with ⟨-, rfl⟩ | ⟨-, rfl⟩
  · exact names_iff_of_word (fun _ => isWordChar_of_mem_classPrefix hs)
      (List.all_eq_true.1 (by decide)) (by decide) hc
  · exact names_iff_of_word (fun _ => mainClass_chars hs) (List.all_eq_true.1 (by decide))
      (by decide) (head?_mainClass hc)

/-- Every source of a project declares its class and nothing else. -/
theorem declared_of_classes (hs : Sheet.ofBlueprint b = .ok (.project s))
    (h : (template, name) ∈ s.classes) (tree : Tree) :
    ∃ inks, Store.bundled.render tree template s.bindings = .ok (Ink.text inks) ∧
      declared inks = [name] := by
  have hwritten : s.bindings.written "main_class_name" = s.mainClass := rfl
  obtain ⟨heading, hheading, htemplate, hname, hnamed⟩ : ∃ heading,
      (template, heading) ∈ Bundled.headings ∧ template ∈ Artifact.project.templates ∧
        Ink.text (heading.name.inks s.bindings) = name ∧
        ∀ n, .named n ∈ heading.name → n = "main_class_name" := by
    simp only [classes, List.mem_cons, List.not_mem_nil, or_false, Prod.mk.injEq] at h
    rcases h with ⟨rfl, rfl⟩ | ⟨rfl, rfl⟩
    · refine ⟨⟨"base_package", [.named "main_class_name"]⟩, by simp [Bundled.headings],
        by simp [Artifact.templates], ?_, by simp⟩
      simp [Shape.inks, Piece.inks, hwritten]
    · refine ⟨⟨"base_package", [.named "main_class_name", .own "Tests".toList]⟩,
        by simp [Bundled.headings], by simp [Artifact.templates], ?_, by simp⟩
      simp [Shape.inks, Piece.inks, hwritten]
  obtain ⟨t, hlookup, hheaded⟩ := Bundled.headed_of_mem _ hheading
  obtain ⟨x, hx⟩ := Sheet.renders (s := .project s) htemplate tree
  obtain ⟨inks, hprint, rfl⟩ := Bundled.print_of_render hlookup hx
  have hdeclared := hheaded.declared hprint fun n hn => by
    rw [hnamed n hn]
    exact Generate.no_space_mainClass (drawn (Sheet.project_of_ok hs))
  exact ⟨inks, hx, hdeclared.trans (congrArg (fun n => [n]) hname)⟩

end ProjectSheet

/-- The main class of a project is letters and digits, and is told by its ending as the entry point.
It begins with the first letter or digit of the name of the project, so it is the name of a class,
and that of its tests is one, exactly if that is a letter. -/
theorem main_class_named_iff (letters : Lettering) (b : Blueprint) (s : ProjectSheet)
    (hs : Sheet.ofBlueprint b = .ok (.project s)) :
    s.bindings.find? "main_class_name" = some (.text s.mainClass) ∧
    (∀ c ∈ s.mainClass.toList, c.isAlphanum) ∧
    (∃ stem, stem ≠ "" ∧ s.mainClass = stem ++ "Application") ∧
    (∀ settings : Settings, settings.entryPointSuffix = "Application" →
      Text.endsWith (s.mainClass ++ settings.sourceExtension) settings.entryPointEnding) ∧
    ∃ c, b.title.toList.find? Char.isAlphanum = some c ∧
      s.mainClass.toList.head? = some c.toUpper ∧
      (c.toUpper.isAlpha ↔ c.isAlpha) ∧
      ∀ template name, (template, name) ∈ s.classes →
        (letters.Names name ↔ c.isAlpha) ∧
        ∀ tree, ∃ inks, Template.Store.bundled.render tree template s.bindings
            = .ok (Template.Ink.text inks) ∧ Template.declared inks = [name] := by
  have hdrawn := ProjectSheet.drawn (Sheet.project_of_ok hs)
  obtain ⟨c, hfind, hc, hhead⟩ := ProjectSheet.exists_first hdrawn
  have hupper : c.toUpper.isAlpha ↔ c.isAlpha :=
    of_ascii (P := fun c => c.toUpper.isAlpha ↔ c.isAlpha) (by decide) hc
  have hsame : Char.isAlphanum = isWordChar :=
    funext fun c => Bool.eq_iff_iff.2 isWordChar_iff.symm
  refine ⟨rfl, fun c hc => isWordChar_iff.1 (ProjectSheet.mainClass_chars hdrawn hc),
    ⟨_, hdrawn.classPrefix_ne, rfl⟩, fun settings hsuffix => ?_,
    c, hsame ▸ hfind, ProjectSheet.head?_mainClass hhead, hupper, fun template name h =>
      ⟨(ProjectSheet.names_of_classes hdrawn hhead h).trans hupper,
        ProjectSheet.declared_of_classes hs h⟩⟩
  rw [Settings.entryPointEnding, hsuffix, ProjectSheet.mainClass, String.append_assoc]
  exact List.isSuffixOf_iff_suffix.2 ⟨s.classPrefix.toList, String.toList_append.symm⟩

/-- A name with letters from elsewhere, which the main class has not. -/
theorem main_class_named_eclair :
    ∃ s, Sheet.ofBlueprint { kind := .project, name := "Éclair 24" } = .ok (.project s) ∧
      s.mainClass = "Clair24Application" ∧ Lettering.plain.Names s.mainClass := by
  obtain ⟨s, hs⟩ := Sheet.exists_of_project (b := { kind := .project, name := "Éclair 24" }) rfl
    (by decide)
  have hmain : pascal (Text.trim "Éclair 24") ++ "Application" = "Clair24Application" := by
    decide
  obtain ⟨-, -, -, -, c, hfind, -, -, hclasses⟩ := main_class_named_iff .plain _ s hs
  obtain ⟨hnames, -⟩ := hclasses _ _ List.mem_cons_self
  have hfirst : (Text.trim "Éclair 24").toList.find? Char.isAlphanum = some 'c' := by
    decide
  obtain rfl : 'c' = c := Option.some.inj (hfirst.symm.trans hfind)
  exact ⟨s, hs, (ProjectSheet.mainClass_of_ok hs).trans hmain, hnames.2 (by decide)⟩

/-- A project whose name begins with a digit is accepted, and its main class begins with it too. -/
theorem digit_first_unnamed :
    ∃ s, Sheet.ofBlueprint { kind := .project, name := "3d shop" } = .ok (.project s) ∧
      s.mainClass = "3dShopApplication" ∧ ¬ ('3').isAlpha ∧
      ∀ letters : Lettering, ¬ letters.Names s.mainClass := by
  obtain ⟨s, hs⟩ := Sheet.exists_of_project (b := { kind := .project, name := "3d shop" }) rfl
    (by decide)
  have hmain : pascal (Text.trim "3d shop") ++ "Application" = "3dShop" ++ "Application" := by
    decide
  have hclass := (ProjectSheet.mainClass_of_ok hs).trans hmain
  refine ⟨s, hs, hclass, by decide, fun letters h => ?_⟩
  have hnames : letters.Names ("3dShop" ++ "Application") ↔ ('3').isAlpha :=
    names_iff_of_word (List.all_eq_true.1 (by decide)) (List.all_eq_true.1 (by decide)) (by decide)
      (by decide)
  rw [hclass] at h
  exact absurd (hnames.1 h) (by decide)

end Groundwork
