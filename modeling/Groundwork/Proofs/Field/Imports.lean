import Groundwork.Field.Imports
import Groundwork.Proofs.Distinct
import Groundwork.Proofs.Result

/-!
# The imports of a class

A class imports what the types of its fields need and what its switches bring. Fields count for
their types only, in no order, and no type brings what a switch brings.
-/

namespace Groundwork.Field

variable {fields fields' : List Field} {persistence validation lombok : Bool} {q : String}

/-- The table of types has one row for a type. -/
theorem import?_eq_some_iff {type : String} :
    JavaType.import? type = some q ↔ (type, q) ∈ JavaType.imports := by
  have hrows : ∀ row ∈ JavaType.imports, JavaType.imports.lookup row.1 = some row.2 := by decide
  exact ⟨mem_of_lookup, hrows (type, q)⟩

theorem mem_imports : q ∈ imports fields persistence validation lombok ↔
    (∃ f ∈ fields, (f.type, q) ∈ JavaType.imports) ∨
      (persistence = true ∧ q = JavaType.persistenceImport) ∨
      (validation = true ∧ q = JavaType.validationImport) ∨
      (lombok = true ∧ q ∈ JavaType.lombokImports) ∨
      (lombok = false ∧ q = JavaType.objectsImport) := by
  rw [imports, mem_sortedSet]
  simp only [List.mem_append, List.mem_filterMap, import?_eq_some_iff]
  cases persistence <;> cases validation <;> cases lombok <;> simp [or_assoc]

theorem imports_congr (h : ∀ type, type ∈ fields'.map (·.type) ↔ type ∈ fields.map (·.type)) :
    imports fields' persistence validation lombok = imports fields persistence validation lombok := by
  have htypes (q : String) : (∃ f ∈ fields', (f.type, q) ∈ JavaType.imports) ↔
      ∃ f ∈ fields, (f.type, q) ∈ JavaType.imports := by
    have hmap (fs : List Field) : (∃ f ∈ fs, (f.type, q) ∈ JavaType.imports) ↔
        ∃ type ∈ fs.map (·.type), (type, q) ∈ JavaType.imports := by
      simp only [List.mem_map, exists_exists_and_eq_and]
    rw [hmap, hmap]
    simp only [h]
  refine (sortedLT_sortedSet _).eq_of_mem_iff (sortedLT_sortedSet _) fun q => ?_
  exact (mem_imports.trans (or_congr_left (htypes q))).trans mem_imports.symm

/-- No row of the table brings what a switch brings. -/
theorem not_switched_of_row : ∀ row ∈ JavaType.imports, row.2 ∉ [JavaType.persistenceImport,
    JavaType.validationImport, JavaType.objectsImport] ++ JavaType.lombokImports := by
  decide

/-- What a row of the table brings is imported for a field of just this type, and only then. -/
theorem row_imported_iff {row : String × String} (hrow : row ∈ JavaType.imports) :
    row.2 ∈ imports fields persistence validation lombok ↔ ∃ f ∈ fields, f.type = row.1 := by
  have hone : ∀ row ∈ JavaType.imports, ∀ row' ∈ JavaType.imports, row.2 = row'.2 → row = row' := by
    decide
  have hnone := not_switched_of_row row hrow
  rw [mem_imports]
  constructor
  · rintro (⟨f, hf, htable⟩ | ⟨-, hq⟩ | ⟨-, hq⟩ | ⟨-, hq⟩ | ⟨-, hq⟩)
    · exact ⟨f, hf, congrArg Prod.fst (hone _ htable _ hrow rfl)⟩
    all_goals
      refine absurd ?_ hnone
      simp [hq]
  · rintro ⟨f, hf, htype⟩
    exact .inl ⟨f, hf, htype ▸ hrow⟩

end Groundwork.Field
