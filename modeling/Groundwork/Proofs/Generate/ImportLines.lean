import Groundwork.Proofs.Field.Imports
import Groundwork.Proofs.Generate.FieldSection
import Groundwork.Proofs.Name.Lettering

/-!
# The import lines of a model

Of the lines that a model is printed in, those that begin like an import are its imports, one line
for each, in their order. They stand behind the line of the package. A type of the table is imported
where it is all of the type of a field; as a part of a type it brings no import.
-/

namespace Groundwork

open Template Text

/-- The imports of a text are lines of it. -/
theorem Text.imports_eq_beginning (x : String) : imports x = beginning "import " (pieces '\n' x) := by
  rw [imports, importLines, pieces, beginning, List.filter_map]
  congr 2
  funext line
  exact congrArg _ String.toList_ofList.symm

namespace Field

variable {f : Field} {persistence validation : Bool} {front line : String}

/-- An empty line, or one that begins with a blank. -/
def Indented (line : String) : Prop :=
  line.toList.head?.all (· = ' ')

theorem Indented.append (h : front.toList.head? = some ' ') (rest : String) :
    Indented (front ++ rest) := by
  rw [Indented, String.toList_append, List.head?_append, h]
  rfl

theorem Indented.not_import (h : Indented line) : ¬ "import ".toList <+: line.toList := by
  rintro ⟨rest, hrest⟩
  have hfirst : "import ".toList.head? = some 'i' := by decide
  rw [Indented, ← hrest, List.head?_append, hfirst, Option.some_or] at h
  exact absurd h (by decide)

/-- The lines that declare a field begin with blanks, whatever its name and its type are. -/
theorem indented_lines (h : line ∈ f.lines persistence validation) : Indented line := by
  unfold Field.lines commentLines annotationLines attributeLine at h
  generalize f.name = name at h
  generalize f.type = type at h
  simp only [List.mem_cons, List.mem_append, List.mem_map, Option.mem_toList, List.not_mem_nil,
    or_false, String.append_assoc] at h
  rcases h with rfl | (⟨c, -, rfl⟩ | h | h) | rfl
  · rfl
  · exact .append (by decide) _
  · split at h
    · obtain ⟨a, -, rfl⟩ := List.mem_map.1 h
      exact .append (by decide) _
    · cases h
  · split at h
    · obtain ⟨a, -, rfl⟩ := List.mem_map.1 h
      exact .append (by decide) _
    · cases h
  · exact .append (by decide) _

theorem indented_accessorLines (h : line ∈ f.accessorLines) : Indented line := by
  unfold accessorLines getterLine setterLine getterName setterName at h
  generalize Name.upperFirst f.name = capitalized at h
  generalize f.name = name at h
  generalize f.type = type at h
  simp only [List.mem_cons, List.not_mem_nil, or_false, String.append_assoc] at h
  rcases h with rfl | rfl | rfl | rfl | rfl | rfl | rfl | rfl
  case inl | inr.inr.inr.inl | inr.inr.inr.inr.inl | inr.inr.inr.inr.inr.inr.inr => rfl
  all_goals exact .append (by decide) _

theorem indented_shownLine (f : Field) : Indented f.shownLine := by
  unfold shownLine
  generalize f.name = name
  simp only [String.append_assoc]
  exact .append (by decide) _

end Field

namespace ModelSheet

open Template.Bundled

/-- No line of the frame of a model is an import. -/
theorem no_import_in_frame : ∀ persistence lombok : Bool,
    (∀ line ∈ (modelFrame persistence lombok).shapes, (line.begins? "import ".toList).isSome) ∧
      (modelFrame persistence lombok).pick "import " = {} := by
  decide +kernel

/-- The lines of a model that begin like an import are its imports. -/
theorem beginning_import_lines (s : ModelSheet) : beginning "import " s.lines
    = (Field.imports s.fields s.persistence s.validation s.lombok).map ("import " ++ · ++ ";") := by
  obtain ⟨hbegun, hpick⟩ := no_import_in_frame s.persistence s.lombok
  have himports : beginning "import " ((Field.imports s.fields s.persistence s.validation
      s.lombok).map ("import " ++ · ++ ";")) = _ := List.filter_eq_self.2 fun line hline => by
    obtain ⟨q, -, rfl⟩ := List.mem_map.1 hline
    rw [List.isPrefixOf_iff_prefix, String.toList_append, String.toList_append, List.append_assoc]
    exact List.prefix_append _ _
  have hlines : beginning "import " (s.fields.flatMap (Field.lines s.persistence s.validation))
      = [] := beginning_eq_nil fun line hline => by
    obtain ⟨f, -, hline⟩ := List.mem_flatMap.1 hline
    exact (Field.indented_lines hline).not_import
  have haccessors : beginning "import " (s.fields.flatMap Field.accessorLines) = [] :=
    beginning_eq_nil fun line hline => by
      obtain ⟨f, -, hline⟩ := List.mem_flatMap.1 hline
      exact (Field.indented_accessorLines hline).not_import
  have hshown : beginning "import " (s.fields.map Field.shownLine) = [] :=
    beginning_eq_nil fun line hline => by
      obtain ⟨f, -, rfl⟩ := List.mem_map.1 hline
      exact f.indented_shownLine.not_import
  have hframe : s.frame.lines s = (modelFrame s.persistence s.lombok).lines s := rfl
  rw [← lines_frame, hframe, ModelFrame.beginning_lines hbegun, hpick, ModelFrame.lines]
  split
  · simp only [List.map_nil, beginning_append, himports, hlines, List.append_nil,
      List.nil_append]
  · simp only [List.map_nil, beginning_append, himports, hlines, haccessors, hshown,
      List.append_nil, List.nil_append]

/-- The imports that are read off the source of a model. -/
theorem imports_of_render {s : ModelSheet} {tree : Tree} {x : String} (hs : s.Unbroken)
    (h : Store.bundled.render tree "model.java.j2" s.bindings = .ok x) :
    Text.imports x
      = (Field.imports s.fields s.persistence s.validation s.lombok).map ("import " ++ · ++ ";") := by
  have hclosed : ∀ line ∈ s.lines, '\n' ∉ line.toList := by
    rw [← lines_frame]
    exact closed_lines s.framed_frame hs
  have hnone : beginning "import " [""] = [] := by decide
  rw [imports_eq_beginning, pieces_linesText (text_of_render h) hclosed, beginning_append,
    beginning_import_lines, hnone, List.append_nil]

end ModelSheet

theorem Sheet.eq_of_model {b : Blueprint} {s : ModelSheet} (h : ofBlueprint b = .ok (.model s)) :
    s = .ofBlueprint b := by
  unfold ofBlueprint at h
  obtain ⟨-, -, h⟩ := bind_ok h
  cases hk : b.kind with
  | model =>
    rw [hk] at h
    cases h
    rfl
  | controller | service | repository | security | project =>
    rw [hk] at h
    obtain ⟨other, -, h⟩ := bind_ok h
    cases h

theorem importLine_inj {q q' : String} (h : "import " ++ q ++ ";" = "import " ++ q' ++ ";") :
    q = q' := by
  rw [String.append_assoc, String.append_assoc, String.append_right_inj] at h
  exact (String.append_left_inj _).1 h

/-- A type of the table is imported exactly if it is the type of a field, so every identifier of the
table is imported that stands alone in the type of its field. All identifiers of the table are
imported exactly if each of them is the type of a field too, whatever it is a part of elsewhere. What
is imported is printed as a line of its own. -/
theorem table_types_imported (letters : Name.Lettering) {b : Blueprint} {s : ModelSheet}
    (hsheet : Sheet.ofBlueprint b = .ok (.model s)) :
    let imports := Field.imports s.fields s.persistence s.validation s.lombok
    let whole := fun row : String × String => ∃ f ∈ b.fields, f.type = row.1
    (Sheet.model s).bindings.find? "imports" = some (.list (imports.map .text)) ∧
      (∀ row ∈ JavaType.imports, row.2 ∈ imports ↔ whole row) ∧
      (∀ f ∈ b.fields, letters.Spells f.type → ∀ row ∈ JavaType.imports,
        row.1 ∈ letters.tokens f.type → row.2 ∈ imports) ∧
      ((∀ f ∈ b.fields, ∀ row ∈ JavaType.imports, row.1 ∈ letters.tokens f.type →
          row.2 ∈ imports) ↔
        ∀ f ∈ b.fields, ∀ row ∈ JavaType.imports, row.1 ∈ letters.tokens f.type → whole row) ∧
      ((∀ text ∈ b.texts, Text.Lacks ['\n'] text) → ∀ tree, ∃ x,
        Store.bundled.render tree "model.java.j2" (Sheet.model s).bindings = .ok x ∧
          ∀ row ∈ JavaType.imports, "import " ++ row.2 ++ ";" ∈ Text.imports x ↔ whole row) := by
  intro imports whole
  obtain rfl := Sheet.eq_of_model hsheet
  have himported (row : String × String) (hrow : row ∈ JavaType.imports) :
      row.2 ∈ imports ↔ whole row := Field.row_imported_iff hrow
  refine ⟨rfl, himported, fun f hf hspells row hrow htoken => ?alone, ?all, fun hlines tree => ?printed⟩
  case alone =>
    rw [hspells.tokens, List.mem_singleton] at htoken
    exact (himported row hrow).2 ⟨f, hf, htoken.symm⟩
  case all =>
    constructor
    · exact fun h f hf row hrow htoken => (himported row hrow).1 (h f hf row hrow htoken)
    · exact fun h f hf row hrow htoken => (himported row hrow).2 (h f hf row hrow htoken)
  case printed =>
    have hmem : "model.java.j2" ∈ Artifact.model.templates := List.mem_cons_self
    obtain ⟨x, hx⟩ := Sheet.renders (s := .model (.ofBlueprint b)) hmem tree
    refine ⟨x, hx, fun row hrow => ?_⟩
    rw [ModelSheet.imports_of_render (ModelSheet.unbroken_ofBlueprint hlines) hx,
      ← himported row hrow, List.mem_map]
    constructor
    · rintro ⟨q, hq, hline⟩
      exact importLine_inj hline ▸ hq
    · exact fun hq => ⟨row.2, hq, rfl⟩

/-- A cart with a list of prices. -/
def pricesBlueprint : Blueprint where
  kind := .model
  name := "Cart"
  package := "com.shop"
  fields := [{ name := "total", type := "BigDecimal" }, { name := "prices", type := "List<BigDecimal>" }]

theorem prices_types_imported :
    Sheet.ofBlueprint pricesBlueprint = .ok (.model (.ofBlueprint pricesBlueprint)) ∧
      (∀ text ∈ pricesBlueprint.texts, Text.Lacks ['\n'] text) ∧
      ∃ x, Store.bundled.render .empty "model.java.j2"
          (Sheet.model (.ofBlueprint pricesBlueprint)).bindings = .ok x ∧
        "import java.math.BigDecimal;" ∈ Text.imports x ∧
        "import java.util.List;" ∉ Text.imports x := by
  have hsheet : Sheet.ofBlueprint pricesBlueprint = .ok (.model (.ofBlueprint pricesBlueprint)) := rfl
  have hlines : ∀ text ∈ pricesBlueprint.texts, Text.Lacks ['\n'] text := by decide +kernel
  obtain ⟨-, -, -, -, hprinted⟩ := table_types_imported .plain hsheet
  obtain ⟨x, hx, hrows⟩ := hprinted hlines .empty
  refine ⟨hsheet, hlines, x, hx, ?_, ?_⟩
  · exact (hrows ("BigDecimal", "java.math.BigDecimal") (by decide)).2 (by decide)
  · exact mt (hrows ("List", "java.util.List") (by decide)).1 (by decide)

/-- A type of the table that is only a part of the type of a field is not imported. -/
theorem part_of_type_not_imported :
    ∃ s, Sheet.ofBlueprint pricesBlueprint = .ok (.model s) ∧
      ∃ f ∈ s.fields, ∃ row ∈ JavaType.imports, row.1 ∈ Name.Lettering.plain.tokens f.type ∧
        row.2 ∉ Field.imports s.fields s.persistence s.validation s.lombok := by
  have hrow : ("List", "java.util.List") ∈ JavaType.imports := by decide
  refine ⟨.ofBlueprint pricesBlueprint, rfl, { name := "prices", type := "List<BigDecimal>" },
    by decide, _, hrow, by decide, ?_⟩
  exact mt (Field.row_imported_iff hrow).1 (by decide)

end Groundwork
