import Groundwork.Proofs.Generate.Operation
import Groundwork.Proofs.Text.Trimming

/-!
# What counts of a blueprint

The name of a blueprint counts without the blanks around it, and an option counts only if it is
set. Two blueprints that are alike in that have the same sheet, or are refused with the same
failure, and every generator does the same for both. So it makes no difference whether an option
that is not set is there at all, nor what blanks stand around the name.
-/

namespace Groundwork

theorem Bindings.find?_filter (keep : String → Bool) (bindings : Bindings) (key : String) :
    Bindings.find? (bindings.filter fun entry => keep entry.1) key
      = if keep key then bindings.find? key else none := by
  unfold Bindings.find?
  induction bindings with
  | nil => simp
  | cons entry rest ih =>
    obtain ⟨name, value⟩ := entry
    rw [List.filter_cons, List.lookup_cons]
    by_cases hname : key = name
    · subst hname
      cases hkeep : keep key with
      | true => simp
      | false => simpa [hkeep] using ih
    · have hother : (key == name) = false := beq_eq_false_iff_ne.2 hname
      cases keep name with
      | true => simpa [List.lookup_cons, hother] using ih
      | false => simpa [hother] using ih

namespace Blueprint

variable {b b' : Blueprint} {keys : List String} {key : String}

/-- The blueprint without some of its options. -/
def without (b : Blueprint) (keys : List String) : Blueprint :=
  { b with options := b.options.filter fun entry => entry.1 ∉ keys }

/-- The blueprint with more around its name. -/
def padded (b : Blueprint) (before after : String) : Blueprint :=
  { b with name := before ++ b.name ++ after }

/-- A value with which an option counts as not given. -/
def Unset (v : Value) : Prop :=
  v = .null ∨ ∃ s, v = .text s ∧ Text.allBlank s

theorem option?_of_unset (h : ∀ v, b.options.find? key = some v → Unset v) :
    b.option? key = none := by
  unfold option?
  cases hfind : b.options.find? key with
  | none => rfl
  | some v =>
    rcases h v hfind with rfl | ⟨s, rfl, hblank⟩
    · rfl
    · simp only [hblank, if_true]

theorem option?_without (b : Blueprint) (keys : List String) (key : String) :
    (b.without keys).option? key = if key ∈ keys then none else b.option? key := by
  have hfind : (b.without keys).options.find? key
      = if key ∈ keys then none else b.options.find? key := by
    have hfilter := Bindings.find?_filter (fun name => decide (name ∉ keys)) b.options key
    rw [without, hfilter]
    by_cases hkey : key ∈ keys <;> simp [hkey]
  by_cases hkey : key ∈ keys
  · rw [if_pos hkey] at hfind ⊢
    rw [option?, hfind]
  · rw [if_neg hkey] at hfind ⊢
    rw [option?, hfind, option?]

/-- Two blueprints that say the same: of the name only the title counts, and of the options only
what is set. -/
structure Alike (b b' : Blueprint) : Prop where
  kind : b.kind = b'.kind
  title : b.title = b'.title
  package : b.package = b'.package
  fields : b.fields = b'.fields
  option? : b.option? = b'.option?

theorem alike_without (h : ∀ key ∈ keys, ∀ v, b.options.find? key = some v → Unset v) :
    Alike (b.without keys) b where
  kind := rfl
  title := rfl
  package := rfl
  fields := rfl
  option? := by
    funext key
    rw [option?_without]
    split
    · rename_i hkey
      rw [option?_of_unset (h key hkey)]
    · rfl

theorem alike_padded {before after : String} (hbefore : Text.allBlank before)
    (hafter : Text.allBlank after) : Alike (b.padded before after) b where
  kind := rfl
  title := Text.trim_pad hbefore hafter b.name
  package := rfl
  fields := rfl
  option? := rfl

namespace Alike

theorem symm (h : Alike b b') : Alike b' b :=
  ⟨h.kind.symm, h.title.symm, h.package.symm, h.fields.symm, h.option?.symm⟩

theorem trans {c : Blueprint} (h : Alike b c) (h' : Alike c b') : Alike b b' :=
  ⟨h.kind.trans h'.kind, h.title.trans h'.title, h.package.trans h'.package,
    h.fields.trans h'.fields, h.option?.trans h'.option?⟩

theorem option (h : Alike b b') : b.option = b'.option := by
  funext key default
  rw [Blueprint.option, h.option?, Blueprint.option]

theorem switched (h : Alike b b') : b.switched = b'.switched := by
  funext key default
  rw [Blueprint.switched, h.option, Blueprint.switched]

theorem modelName (h : Alike b b') : b.modelName = b'.modelName := by
  funext suffix
  rw [Blueprint.modelName, h.option?, h.title, Blueprint.modelName]

theorem requireName (h : Alike b b') : b.requireName = b'.requireName := by
  have hblank : Text.allBlank b.name = Text.allBlank b'.name := by
    rw [Bool.eq_iff_iff, Text.allBlank_iff_trim, Text.allBlank_iff_trim]
    exact Eq.congr h.title rfl
  rw [Blueprint.requireName, hblank, h.kind, Blueprint.requireName]

theorem modelSheet (h : Alike b b') : ModelSheet.ofBlueprint b = ModelSheet.ofBlueprint b' := by
  simp only [ModelSheet.ofBlueprint, h.title, h.package, h.fields, h.option, h.switched]

theorem controllerSheet (h : Alike b b') :
    ControllerSheet.ofBlueprint b = ControllerSheet.ofBlueprint b' := by
  simp only [ControllerSheet.ofBlueprint, h.title, h.package, h.option, h.switched, h.modelName]

theorem serviceSheet (h : Alike b b') :
    ServiceSheet.ofBlueprint b = ServiceSheet.ofBlueprint b' := by
  simp only [ServiceSheet.ofBlueprint, h.title, h.package, h.option, h.switched, h.modelName]

theorem repositorySheet (h : Alike b b') :
    RepositorySheet.ofBlueprint b = RepositorySheet.ofBlueprint b' := by
  simp only [RepositorySheet.ofBlueprint, h.title, h.package, h.option, h.switched, h.modelName]

theorem securitySheet (h : Alike b b') :
    SecuritySheet.ofBlueprint b = SecuritySheet.ofBlueprint b' := by
  have hrepository : SecuritySheet.repositoryPackage b = SecuritySheet.repositoryPackage b' := by
    unfold SecuritySheet.repositoryPackage
    rw [h.option]
  simp only [SecuritySheet.ofBlueprint, hrepository, h.package, h.option, h.switched]

theorem projectSheet (h : Alike b b') :
    ProjectSheet.ofBlueprint b = ProjectSheet.ofBlueprint b' := by
  simp only [ProjectSheet.ofBlueprint, h.title, h.package, h.option, h.switched]

/-- Blueprints that are alike have one sheet, or one failure. -/
theorem sheet (h : Alike b b') : Sheet.ofBlueprint b = Sheet.ofBlueprint b' := by
  unfold Sheet.ofBlueprint
  rw [h.requireName, h.kind]
  cases b'.kind with
  | model => rw [h.modelSheet]
  | controller => rw [h.controllerSheet]
  | service => rw [h.serviceSheet]
  | repository => rw [h.repositorySheet]
  | security => rw [h.securitySheet]
  | project => rw [h.projectSheet]

theorem run_sheet (h : Alike b b') : Run.sheet b = Run.sheet b' := by
  rw [Run.sheet, h.sheet, Run.sheet]

variable (store : Template.Store) (project : Project)

theorem artifact (h : Alike b b') :
    Generate.artifact store project b = Generate.artifact store project b' := by
  rw [Generate.artifact, h.kind, h.run_sheet, Generate.artifact]

theorem security (h : Alike b b') :
    Generate.security store project b = Generate.security store project b' := by
  rw [Generate.security, h.kind, h.run_sheet, Generate.security]

theorem newProject (settings : Settings) (output : Path) (h : Alike b b') :
    Generate.project store settings output b = Generate.project store settings output b' := by
  rw [Generate.project, h.kind, h.run_sheet, Generate.project]

end Alike

end Blueprint

open Blueprint

/-- A blueprint keeps its sheet, or the failure it is refused with, when options that are not set
are taken out of it. Nor does it matter what blanks stand around its name: the sheet or the failure
stays, and the generator for its kind does the same on every site. -/
theorem blanks_do_not_count :
    (∀ (b : Blueprint) (keys : List String),
      (∀ key ∈ keys, ∀ v, b.options.find? key = some v → Unset v) →
        Sheet.ofBlueprint (b.without keys) = Sheet.ofBlueprint b) ∧
    ∀ (b : Blueprint) (before after before' after' : String),
      Text.allBlank before → Text.allBlank after → Text.allBlank before' → Text.allBlank after' →
        Sheet.ofBlueprint (b.padded before after) = Sheet.ofBlueprint (b.padded before' after') ∧
        ∀ (store : Template.Store) (project : Project),
          Generate.artifact store project (b.padded before after)
              = Generate.artifact store project (b.padded before' after') ∧
            Generate.security store project (b.padded before after)
              = Generate.security store project (b.padded before' after') ∧
            Generate.project store project.settings project.root (b.padded before after)
              = Generate.project store project.settings project.root (b.padded before' after') := by
  refine ⟨fun b keys h => (alike_without h).sheet,
    fun b before after before' after' hbefore hafter hbefore' hafter' => ?_⟩
  have h : Alike (b.padded before after) (b.padded before' after') :=
    (alike_padded hbefore hafter).trans (alike_padded hbefore' hafter').symm
  exact ⟨h.sheet, fun store project =>
    ⟨h.artifact store project, h.security store project, h.newProject store _ _⟩⟩

/-- A model with two options that are not set among its options, and with blanks of several kinds
around its name. -/
theorem blanks_do_not_count_user :
    Sheet.ofBlueprint { kind := .model, name := "User", options := [("use_lombok", .bool false)] }
      = Sheet.ofBlueprint { kind := .model, name := "User", options :=
          [("table_name", .text "\t\u00A0"), ("use_lombok", .bool false), ("include_jpa", .null)] } ∧
    Generate.artifact .bundled ⟨.here, {}⟩ { kind := .model, name := "\n\u001F User" }
      = Generate.artifact .bundled ⟨.here, {}⟩ { kind := .model, name := "User\u3000" } := by
  refine ⟨?_, ?_⟩
  · refine blanks_do_not_count.1 { kind := .model, name := "User", options :=
      [("table_name", .text "\t\u00A0"), ("use_lombok", .bool false), ("include_jpa", .null)] }
      ["table_name", "include_jpa"] fun key hkey v hfind => ?_
    simp only [List.mem_cons, List.not_mem_nil, or_false] at hkey
    rcases hkey with rfl | rfl
    · obtain rfl : Value.text "\t\u00A0" = v := Option.some.inj hfind
      exact .inr ⟨_, rfl, by decide⟩
    · obtain rfl : Value.null = v := Option.some.inj hfind
      exact .inl rfl
  · exact ((blanks_do_not_count.2 { kind := .model, name := "User" } "\n\u001F " "" "" "\u3000"
      (by decide) (by decide) (by decide) (by decide)).2 .bundled ⟨.here, {}⟩).1

end Groundwork
