import Groundwork.Proofs.Generate.Rendering
import Groundwork.Proofs.Template.Forms
import Groundwork.Proofs.Template.Heading

/-!
# Templates of the library never fail

The options of a blueprint may hold anything, and many of them go into the templates as they are.
Only lists are repeated over, and only entries of lists are asked for members; a sheet makes both
itself. So once there is a sheet, every template that its generator may render gives a text, and a
generator with the templates of the library never ends with a fault of a template.
-/

namespace Groundwork

namespace Artifact

open Generate

/-- The templates that the generator of a kind may render, whatever is switched on. -/
def templates : Artifact → List String
  | model => ["model.java.j2"]
  | controller => ["controller.java.j2"]
  | service => ["service_interface.java.j2", "service_impl.java.j2", "service.java.j2"]
  | repository => ["repository.java.j2"]
  | security => securityClasses.map Prod.snd ++ ["security/auth_controller.java.j2"]
  | project =>
    ["project/pom.xml.j2", "project/main.java.j2", "project/application.properties.j2",
      "project/test.java.j2"] ++ optionalFiles.map fun (_, template, _) => template

/-- The forms of the values that the templates of a kind do more with than to write and to test
them. The annotations of a field are left out where there are none. -/
def forms : Artifact → Template.Forms
  | model =>
    [("imports", .items .any), ("fields", .items (.record ["validation_annotations"]))]
  | project => [("dependency_names", .items .any), ("dependencies", .items (.record []))]
  | controller | service | repository | security => []

end Artifact

namespace Template

/-- Every template of a kind keeps to the forms of the kind. -/
theorem Bundled.keeps_of_mem {kind : Artifact} {name : String} (h : name ∈ kind.templates) :
    ∃ template, catalogue.lookup name = some template ∧ template.keeps kind.forms := by
  have hkept : ∀ kind ∈ Artifact.all, ∀ name ∈ kind.templates,
      (catalogue.lookup name).any (·.keeps kind.forms) := by
    decide +kernel
  have hkind : kind ∈ Artifact.all := by
    cases kind <;> decide
  exact (Option.any_eq_true _ _).1 (hkept kind hkind name h)

/-- The only member of a field that is repeated over is a list, where it is there. -/
theorem Form.has_entry (f : Field) :
    (record ["validation_annotations"]).Has (.value f.entry) := by
  refine ⟨f.entry, rfl, ?_⟩
  intro field hfield m hm
  rw [List.mem_singleton] at hfield
  subst hfield
  unfold Operand.member Field.entry at hm
  simp only [List.cons_append, List.nil_append, List.lookup_cons, List.lookup_append] at hm
  have hcolumn : (f.columnAnnotation?.toList.map fun a =>
      ("column_annotation", Value.text a)).lookup "validation_annotations" = none := by
    cases f.columnAnnotation? <;> rfl
  have hcomment : ((f.comment.filter (· != "")).toList.map fun c =>
      ("comment", Value.text c)).lookup "validation_annotations" = none := by
    cases f.comment.filter (· != "") <;> rfl
  rw [hcolumn, hcomment] at hm
  by_cases hnone : f.validationAnnotations.isEmpty
  · rw [if_pos hnone] at hm
    cases hm
    exact ⟨[], rfl⟩
  · rw [if_neg hnone] at hm
    cases hm
    exact ⟨_, rfl⟩

end Template

open Template Generate Run

/-- The bindings of a sheet have the forms that its templates need. -/
theorem Sheet.fit (s : Sheet) : Fit s.kind.forms s.bindings := by
  cases s with
  | model s =>
    intro n form hform
    obtain ⟨rfl, rfl⟩ | ⟨rfl, rfl⟩ : n = "imports" ∧ form = .items .any ∨
        n = "fields" ∧ form = .items (.record ["validation_annotations"]) := by
      simpa [kind, Artifact.forms] using mem_of_lookup hform
    · exact ⟨_, rfl, Form.has_list fun _ _ => trivial⟩
    · refine ⟨_, rfl, Form.has_list ?_⟩
      intro v hv
      obtain ⟨f, -, rfl⟩ := List.mem_map.1 hv
      exact Form.has_entry f
  | project s =>
    intro n form hform
    obtain ⟨rfl, rfl⟩ | ⟨rfl, rfl⟩ : n = "dependency_names" ∧ form = .items .any ∨
        n = "dependencies" ∧ form = .items (.record []) := by
      simpa [kind, Artifact.forms] using mem_of_lookup hform
    · exact ⟨_, rfl, Form.has_list fun _ _ => trivial⟩
    · exact ⟨_, rfl, Form.has_list fun v _ => Form.has_record_nil v⟩
  | controller s | service s | repository s | security s =>
    intro n form hform
    cases hform

/-- Every output of a sheet is rendered from a template of its kind. -/
theorem Sheet.template_mem {project : Project} {s : Sheet} {o : Output}
    (ho : o ∈ outputs project s) : o.template ∈ s.kind.templates := by
  cases s with
  | model s | controller s | repository s =>
    cases List.mem_singleton.1 ho
    exact List.mem_cons_self
  | service s =>
    rw [outputs] at ho
    split at ho
    · simp only [List.mem_cons, List.not_mem_nil, or_false] at ho
      rcases ho with rfl | rfl <;> simp [kind, Artifact.templates]
    · cases List.mem_singleton.1 ho
      simp [kind, Artifact.templates]
  | security s =>
    rcases List.mem_append.1 ho with ho | ho
    · obtain ⟨entry, hentry, rfl⟩ := List.mem_map.1 ho
      exact List.mem_append_left _ (List.mem_map_of_mem hentry)
    · cases List.mem_singleton.1 ho
      exact List.mem_append_right _ List.mem_cons_self
  | project s =>
    rcases List.mem_append.1 ho with ho | ho
    · refine List.mem_append_left _ ?_
      simp only [List.mem_cons, List.not_mem_nil, or_false] at ho
      rcases ho with rfl | rfl | rfl | rfl <;> simp
    · obtain ⟨entry, hentry, rfl⟩ := List.mem_map.1 ho
      exact List.mem_append_right _ (List.mem_map_of_mem (List.mem_filter.1 hentry).1)

/-- Every template of a sheet's kind gives a text. -/
theorem Sheet.renders {s : Sheet} {name : String} (h : name ∈ s.kind.templates) (t : Tree) :
    ∃ text, Store.bundled.render t name s.bindings = .ok text := by
  obtain ⟨template, hlookup, hkeeps⟩ := Bundled.keeps_of_mem h
  obtain ⟨text, htext⟩ := render_of_keeps .off s.fit hkeeps
  refine ⟨text, ?_⟩
  rw [Store.render, Bundled.load_eq hlookup]
  show (template.render .off s.bindings).mapError _ = _
  rw [htext]
  rfl

end Groundwork
