import Groundwork.Proofs.Generate.NewProject
import Groundwork.Proofs.Name.Slug
import Groundwork.Proofs.Sheet

/-!
# What a project is called

A project lies in a directory that is named by the slug of its name, and its main class is named by
the words of the same text. A name has both or neither, and two names with one directory have one
main class, unless they are spelled with letters from elsewhere.
-/

namespace Groundwork

open Name

theorem not_isBlank_of_isWordChar {c : Char} (h : isWordChar c) : ¬ Text.isBlank c :=
  of_ascii (P := fun c => ¬ Text.isBlank c) (by decide) h

variable {b : Blueprint}

/-- The words of a name are those of its title. -/
theorem Blueprint.wordless_title_iff :
    (∀ c ∈ b.title.toList, ¬ isWordChar c) ↔ ∀ c ∈ b.name.toList, ¬ isWordChar c := by
  constructor
  · intro h c hc hword
    exact h c ((Text.mem_trim_iff (not_isBlank_of_isWordChar hword)).2 hc) hword
  · exact fun h c hc => h c (Text.mem_of_mem_trim hc)

namespace ProjectSheet

/-- A name gives a project no directory, or no main class, if it has no letters and digits. -/
theorem nameless_iff :
    (slug b.title = "" || pascal b.title = "") ↔ ∀ c ∈ b.title.toList, ¬ isWordChar c := by
  rw [Bool.or_eq_true, decide_eq_true_eq, decide_eq_true_eq, ← pascal_eq_empty_iff]
  refine ⟨fun h => h.elim (fun hslug => ?_) id, .inr⟩
  exact pascal_eq_empty_iff.2 fun c hc hword => slug_ne_empty hc hword hslug

theorem input_iff : (∃ fault, ofBlueprint b = .error (.input fault)) ↔
    ∀ c ∈ b.title.toList, ¬ isWordChar c := by
  rw [← nameless_iff]
  unfold ofBlueprint
  dsimp only
  constructor
  · rintro ⟨fault, h⟩
    split at h
    · rename_i hnameless
      exact hnameless
    · -- what is wrong with an option is a misuse
      exfalso
      split at h
      · cases hnames : Dependency.normalizeValue (b.option "dependencies" .null) with
        | error m =>
          rw [hnames] at h
          cases h
        | ok names =>
          rw [hnames] at h
          cases h
      · cases h
  · intro h
    rw [if_pos h]
    exact ⟨_, rfl⟩

end ProjectSheet

namespace Sheet

theorem error_of_project {f : Failure} (hkind : b.kind = .project)
    (hname : b.requireName = .ok ()) (h : ProjectSheet.ofBlueprint b = .error f) :
    ofBlueprint b = .error f := by
  unfold ofBlueprint
  rw [hname, hkind, h]
  rfl

/-- A project that has no sheet for its name has no letters and digits in it. -/
theorem input_iff_of_project (hkind : b.kind = .project) :
    (∃ fault, ofBlueprint b = .error (.input fault)) ↔ ∀ c ∈ b.name.toList, ¬ isWordChar c := by
  rw [← Blueprint.wordless_title_iff, ← ProjectSheet.input_iff]
  cases hname : b.requireName with
  | error f =>
    obtain rfl := Blueprint.requireName_error hname
    have hblank : Text.trim b.name = "" := by
      unfold Blueprint.requireName at hname
      split at hname
      · rename_i hblank
        exact (Text.allBlank_iff_trim b.name).1 hblank
      · cases hname
    refine iff_of_true ⟨.blankName b.kind, ?_⟩ (ProjectSheet.input_iff.2 ?_)
    · unfold ofBlueprint
      rw [hname]
      rfl
    · rw [Blueprint.title, hblank]
      exact nofun
  | ok u =>
    cases hs : ProjectSheet.ofBlueprint b with
    | error f =>
      rw [error_of_project hkind hname hs]
      exact exists_congr fun fault => by rw [Except.error.injEq, Except.error.injEq]
    | ok s =>
      rw [ok_of_project hkind hname hs]
      refine iff_of_false ?_ ?_ <;> exact nofun

theorem exists_of_project (hkind : b.kind = .project) (hok : (ofBlueprint b).isOk) :
    ∃ s, ofBlueprint b = .ok (.project s) := by
  obtain ⟨sheet, hs⟩ := exists_of_isOk hok
  rw [← kind_of_ofBlueprint hs] at hkind
  cases sheet with
  | project s => exact ⟨s, hs⟩
  | _ => cases hkind

end Sheet

namespace Generate

open Run

variable {store : Template.Store} {settings : Settings} {output path root : Path}
  {project : Project} {s : ProjectSheet} {name : String} {o : Output} {t : Tree} {place : Location}

/-- A file with the name of an application class. -/
def Applicational (settings : Settings) (name : String) : Prop :=
  Text.endsWith name ("Application" ++ settings.sourceExtension)

theorem Applicational.occurs (h : Applicational settings name) :
    "Application".toList <:+: name.toList := by
  obtain ⟨front, hfront⟩ := Text.endsWith_iff.1 h
  rw [String.toList_append, ← List.append_assoc] at hfront
  exact ⟨front, settings.sourceExtension.toList, hfront⟩

theorem Applicational.stem {stem : String}
    (h : Applicational settings (stem ++ settings.sourceExtension)) :
    Text.endsWith stem "Application" := by
  obtain ⟨front, hfront⟩ := Text.endsWith_iff.1 h
  rw [String.toList_append, String.toList_append, ← List.append_assoc] at hfront
  exact Text.endsWith_iff.2 ⟨front, List.append_cancel_right hfront⟩

end Generate

open Generate

/-- The directory of a project has a canonical name: small letters and digits in words with single
hyphens between them, which is its own slug. Only a name without letters and digits is at fault for
a project; every other gives a part of a path that leads one step down from where it is put. -/
theorem project_directory_canonical :
    (∀ text, slug text
        = Text.trimBy (· = '-') (.ofList (Text.collapse isSlugChar '-' (Text.lower text).toList)) ∧
      Hyphenated (slug text) ∧
      ((slug text).toList.head? ≠ some '-' ∧ (slug text).toList.getLast? ≠ some '-' ∧
        ¬ ['-', '-'] <:+: (slug text).toList) ∧
      slug (slug text) = slug text) ∧
    (∀ b : Blueprint, b.kind = .project →
      ((∃ fault, Sheet.ofBlueprint b = .error (.input fault)) ↔
        ∀ c ∈ b.name.toList, ¬ c.isAlphanum)) ∧
    ∀ store settings output b site site' result,
      Run.on site (Generate.project store settings output b) = (.ok result, site') →
        ∃ name, name = slug b.title ∧ Hyphenated name ∧ Path.Plain name ∧ name ≠ ".." ∧
          result.root.parent = output ∧ result.root.anchor = output.anchor ∧
          result.root.parts = output.parts ++ [name] := by
  refine ⟨fun text => ?_, fun b hkind => ?_, fun store settings output b site site' result h => ?_⟩
  · have hslug := hyphenated_slug text
    exact ⟨slug_eq_trimBy text, hslug, hslug.hyphens, slug_eq_self_iff.2 hslug⟩
  · simp only [Sheet.input_iff_of_project hkind, isWordChar_iff]
  · obtain ⟨s, _, hsheet, -, -, hroot⟩ := project_ok h
    have hs := ProjectSheet.drawn (Sheet.project_of_ok hsheet)
    obtain ⟨hplain, hup⟩ := Name.plain_slug (hs.artifact ▸ hs.artifact_ne)
    have hanchor : result.root.anchor = output.anchor := by
      rw [hroot, hs.artifact, Path.anchor_child hplain.relative]
    have hparts : result.root.parts = output.parts ++ [slug b.title] := by
      rw [hroot, hs.artifact, hplain.parts_child]
    have hparent : result.root.parent = output := by
      refine Path.ext hanchor ?_
      show result.root.parts.dropLast = output.parts
      rw [hparts, List.dropLast_concat]
    exact ⟨_, rfl, hyphenated_slug _, hplain, hup, hparent, hanchor, hparts⟩

/-- A name in capital letters of another alphabet, and one with letters of both. -/
theorem project_directory_canonical_summer :
    (∃ fault, Sheet.ofBlueprint { kind := .project, name := "ΛΕΞΗ" } = .error (.input fault)) ∧
    ∃ result site', Run.on ⟨.empty, []⟩
        (Generate.project .bundled {} .here { kind := .project, name := " Été_(2024) " })
          = (.ok result, site') ∧ result.root.parts = ["t-2024"] := by
  refine ⟨?_, ?_⟩
  · refine (project_directory_canonical.2.1 _ rfl).2 fun c hc => ?_
    have hall : "ΛΕΞΗ".toList.all fun c => !c.isAlphanum := by decide +kernel
    simpa using List.all_eq_true.1 hall c hc
  · have hok : (Run.on ⟨.empty, []⟩ (Generate.project .bundled {} .here
        { kind := .project, name := " Été_(2024) " })).1.isOk = true := by decide +kernel
    obtain ⟨result, site', hon⟩ := Run.on_ok_of_isOk hok
    obtain ⟨name, hname, -, -, -, -, -, hparts⟩ :=
      project_directory_canonical.2.2 .bundled {} .here _ _ site' result hon
    have hslug : slug (Text.trim " Été_(2024) ") = "t-2024" := by decide +kernel
    refine ⟨result, site', hon, ?_⟩
    rw [hparts, hname, Blueprint.title, hslug]
    rfl

end Groundwork
