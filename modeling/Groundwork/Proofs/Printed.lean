import Groundwork.Proofs.Origin
import Groundwork.Proofs.Generate.Rendering

/-!
# The values that sources print

Every source of a blueprint is printed from a few values of its sheet. None of them has a line end
or a brace that no text of the blueprint has.
-/

namespace Groundwork

open Text Value

namespace Artifact

/-- The names of the values that the sources of a kind print. -/
def printed : Artifact → List String
  | model => ["package_name", "class_name", "table_name", "imports", "fields"]
  | controller =>
    ["package_name", "controller_name", "model_name", "model_package", "service_package",
      "service_name", "service_instance_name", "model_instance_name", "resource_path", "base_path"]
  | service =>
    ["package_name", "service_name", "model_name", "model_package", "repository_package",
      "repository_name", "repository_instance_name", "model_instance_name", "interface_name",
      "implementation_name"]
  | repository =>
    ["package_name", "repository_name", "model_name", "model_package", "base_type", "id_type"]
  | security =>
    ["package_name", "controller_package", "jwt_secret", "jwt_expiration", "jwt_expiration_hours",
      "user_entity", "user_instance_name", "user_package", "user_repository_package",
      "user_repository_name"]
  | project => ["base_package", "main_class_name"]

end Artifact

variable {marks : List Char} {b : Blueprint} (hmarks : marks ⊆ layoutMarks)

/-- Only a text is a base path, and it is one without any mark of layout that it has not. -/
theorem ControllerSheet.lacks_basePath {v : Value} {path : String} (hmarks : marks ⊆ layoutMarks)
    (hv : v.Lacks marks) (h : Value.needed (basePathOf v) = .ok path) : Text.Lacks marks path := by
  cases v with
  | text s =>
    have hpath : normalPath s = path := Except.ok.inj h
    rw [← hpath]
    exact lacks_normalPath hmarks (hv s List.mem_cons_self)
  | null | bool _ | int _ | float _ | list _ | object _ => cases h

variable (hb : ∀ t ∈ b.texts, Text.Lacks marks t)

include hmarks hb

theorem ModelSheet.lacks : ∀ e ∈ (ofBlueprint b).bindings, e.2.Lacks marks := by
  have htable : (ofBlueprint b).tableName.Lacks marks := by
    unfold ofBlueprint
    dsimp only
    split
    · exact b.lacks_option hb _ fun _ => nofun
    · exact lacks_text (lacks_table hmarks (b.lacks_title hb))
  have hfields : (list ((ofBlueprint b).fields.map Field.entry)).Lacks marks := by
    refine lacks_items fun w hw => ?_
    obtain ⟨f, hf, rfl⟩ := List.mem_map.1 hw
    exact Field.lacks_entry hmarks (b.lacks_fields hb f hf)
  simp only [bindings, List.forall_mem_cons]
  exact ⟨lacks_text (b.lacks_title hb), lacks_text (b.lacks_package hb), htable, lacks_bool _,
    lacks_bool _, lacks_bool _, hfields, lacks_texts fun _ => Field.lacks_imports hmarks,
    fun _ => nofun⟩

theorem ControllerSheet.lacks {s : ControllerSheet} (h : ofBlueprint b = .ok s) :
    ∀ e ∈ s.bindings, e.2.Lacks marks := by
  obtain ⟨service, hservice, h⟩ := bind_ok h
  obtain ⟨basePath, hpath, h⟩ := bind_ok h
  cases h
  have hempty : (text "").Lacks marks := lacks_text (lacks_of_decide hmarks (by decide))
  have hmodel : Text.Lacks marks (b.modelName "Controller").written := by
    have hvalue := b.lacks_modelName hmarks hb "Controller"
    obtain ⟨model, hmodel⟩ := eq_text_of_append hservice
    rw [hmodel] at hvalue ⊢
    exact hvalue model List.mem_cons_self
  have hbase : Text.Lacks marks basePath :=
    ControllerSheet.lacks_basePath hmarks (b.lacks_option hb "base_path"
      (lacks_text (lacks_of_decide hmarks (s := usualBasePath) (by decide)))) hpath
  have hname := hmodel.append (lacks_of_decide hmarks (s := "Service") (by decide))
  simp only [bindings, List.forall_mem_cons]
  exact ⟨lacks_text (b.lacks_package hb), lacks_text (b.lacks_title hb), lacks_text hmodel,
    b.lacks_option hb _ hempty, b.lacks_option hb _ hempty, lacks_text hname,
    lacks_text (lacks_lowerFirst hmarks hname), lacks_text (lacks_lowerFirst hmarks hmodel),
    lacks_text (lacks_collection hmarks hmodel), lacks_text hbase, lacks_bool _, lacks_bool _,
    lacks_bool _, fun _ => nofun⟩

theorem ServiceSheet.lacks {s : ServiceSheet} (h : ofBlueprint b = .ok s) :
    ∀ e ∈ s.bindings, e.2.Lacks marks := by
  obtain ⟨repository, hrepository, h⟩ := bind_ok h
  cases h
  have hempty : (text "").Lacks marks := lacks_text (lacks_of_decide hmarks (by decide))
  have hmodel : Text.Lacks marks (b.modelName "Service").written := by
    have hvalue := b.lacks_modelName hmarks hb "Service"
    obtain ⟨model, hmodel⟩ := eq_text_of_append hrepository
    rw [hmodel] at hvalue ⊢
    exact hvalue model List.mem_cons_self
  have htitle := b.lacks_title hb
  have hname := hmodel.append (lacks_of_decide hmarks (s := "Repository") (by decide))
  have himplementation := htitle.append (lacks_of_decide hmarks (s := "Impl") (by decide))
  simp only [bindings, List.forall_mem_cons]
  exact ⟨lacks_text (b.lacks_package hb), lacks_text htitle, lacks_text hmodel,
    b.lacks_option hb _ hempty, b.lacks_option hb _ hempty, lacks_text hname,
    lacks_text (lacks_lowerFirst hmarks hname), lacks_text (lacks_lowerFirst hmarks hmodel),
    lacks_text htitle, lacks_text himplementation, lacks_bool _, lacks_bool _, lacks_bool _,
    lacks_bool _, fun _ => nofun⟩

theorem RepositorySheet.lacks {s : RepositorySheet} (h : ofBlueprint b = .ok s) :
    ∀ e ∈ s.bindings, e.2.Lacks marks := by
  obtain ⟨instance', hinstance, h⟩ := bind_ok h
  cases h
  have hempty : (text "").Lacks marks := lacks_text (lacks_of_decide hmarks (by decide))
  have hid : (text usualIdType).Lacks marks := lacks_text (lacks_of_decide hmarks (by decide))
  have hmodel : Text.Lacks marks (b.modelName "Repository").written := by
    have hvalue := b.lacks_modelName hmarks hb "Repository"
    obtain ⟨model, hmodel⟩ := (b.modelName_holds "Repository").elim id fun hholds =>
      eq_text_of_lowerFirst hholds hinstance
    rw [hmodel] at hvalue ⊢
    exact hvalue model List.mem_cons_self
  have hkinds : ∀ kind : RepositoryKind, Text.Lacks layoutMarks kind.name ∧
      Text.Lacks layoutMarks kind.baseType := by
    intro kind
    cases kind <;> decide
  have hkind := hkinds (.ofValue (b.option "repository_type" .null))
  simp only [bindings, List.forall_mem_cons]
  exact ⟨lacks_text (b.lacks_package hb), lacks_text (b.lacks_title hb), lacks_text hmodel,
    b.lacks_option hb _ hempty, lacks_text (lacks_lowerFirst hmarks hmodel),
    lacks_text (lacks_of_decide hmarks hkind.1), lacks_text (lacks_of_decide hmarks hkind.2),
    lacks_bool _, b.lacks_option hb _ hid, lacks_bool _, lacks_bool _, fun _ => nofun⟩

theorem SecuritySheet.lacks {s : SecuritySheet} (h : ofBlueprint b = .ok s) :
    ∀ e ∈ s.bindings, e.2.Lacks marks := by
  obtain ⟨expiration, -, h⟩ := bind_ok h
  obtain ⟨instance', -, h⟩ := bind_ok h
  obtain ⟨repositoryPackage, hpackage, h⟩ := bind_ok h
  obtain ⟨repository, hrepository, h⟩ := bind_ok h
  cases h
  have hliteral {s : String} (hs : Text.Lacks layoutMarks s) : (text s).Lacks marks :=
    lacks_text (lacks_of_decide hmarks hs)
  have hsecret := b.lacks_option hb "jwt_secret"
    (hliteral (s := usualSecret) (by decide))
  have huser : Text.Lacks marks (b.option "user_entity" (.text usualUser)).written := by
    have hvalue := b.lacks_option hb "user_entity"
      (hliteral (s := usualUser) (by decide))
    obtain ⟨user, huser⟩ := eq_text_of_append hrepository
    rw [huser] at hvalue ⊢
    exact hvalue user List.mem_cons_self
  have huserPackage := b.lacks_option hb "user_package" (hliteral (s := "") (by decide))
  have hrepositoryPackage : repositoryPackage.Lacks marks := by
    unfold SecuritySheet.repositoryPackage at hpackage
    dsimp only at hpackage
    split at hpackage
    · cases hpackage
      exact b.lacks_option hb _ fun _ => nofun
    · split at hpackage
      · rename_i package hgiven
        cases hpackage
        rw [hgiven] at huserPackage
        exact lacks_text (lacks_swapLast hmarks (by decide) (huserPackage _ List.mem_cons_self))
      · cases hpackage
  have hcontroller : Text.Lacks marks (Package.controllerFor b.package) :=
    lacks_swapLast hmarks (by decide) (b.lacks_package hb)
  have hname := huser.append (lacks_of_decide hmarks (s := "Repository") (by decide))
  simp only [bindings, List.forall_mem_cons]
  exact ⟨lacks_text (b.lacks_package hb), lacks_text hcontroller, hsecret, lacks_int _,
    lacks_int _, lacks_text huser, lacks_text (lacks_lowerFirst hmarks huser), huserPackage,
    hrepositoryPackage, lacks_text hname, lacks_bool _, fun _ => nofun⟩

/-- The two values of a project that its sources print. -/
theorem ProjectSheet.lacks {s : ProjectSheet} (h : ofBlueprint b = .ok s) :
    Text.Lacks marks s.basePackage ∧ Text.Lacks marks s.mainClass := by
  have hs := drawn h
  have hno : ∀ m ∈ layoutMarks, ¬ Name.isWordChar m := List.any_eq_false.1 (by decide)
  refine ⟨?_, fun m hm hin => hno m (hmarks hm) (mainClass_chars hs hin)⟩
  rw [hs.basePackage]
  split
  · exact lacks_of_decide hmarks (by decide)
  · exact b.lacks_package hb

/-- The values that the sources of a sheet print lack what the texts of the blueprint lack. -/
theorem Sheet.lacks_printed {s : Sheet} (h : ofBlueprint b = .ok s) :
    ∀ n ∈ s.kind.printed, ∀ v, s.bindings.find? n = some v → v.Lacks marks := by
  intro n hn v hv
  cases from_of_ok h with
  | model => exact ModelSheet.lacks hmarks hb _ (mem_of_lookup hv)
  | controller hs => exact ControllerSheet.lacks hmarks hb hs _ (mem_of_lookup hv)
  | service hs => exact ServiceSheet.lacks hmarks hb hs _ (mem_of_lookup hv)
  | repository hs => exact RepositorySheet.lacks hmarks hb hs _ (mem_of_lookup hv)
  | security hs => exact SecuritySheet.lacks hmarks hb hs _ (mem_of_lookup hv)
  | @project s hs =>
    obtain ⟨hpackage, hclass⟩ := ProjectSheet.lacks hmarks hb hs
    simp only [kind, Artifact.printed, List.mem_cons, List.not_mem_nil, or_false] at hn
    rcases hn with rfl | rfl
    · cases hv
      exact lacks_text hpackage
    · cases hv
      exact lacks_text hclass

end Groundwork
