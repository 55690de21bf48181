import Groundwork.Proofs.Blueprint
import Groundwork.Proofs.Field.Imports
import Groundwork.Proofs.Generate.FieldSection

/-!
# What is switched off in a model

Without validation nothing that is only checked of the values of a field reaches the source of a
model, and without persistence nothing that is only said about its column or its table does. What
must not be seen is forgotten: two models that are the same once it is forgotten have one source.
-/

namespace Groundwork

open Template

namespace Field

variable {fields fields' : List Field} {persistence validation lombok : Bool}
  {forget : Field → Field}

/-- The field without what is only checked of its values. -/
def unchecked (f : Field) : Field :=
  { f with required := false, pattern := none, minValue := none, maxValue := none }

/-- The field without what is only said about its column. -/
def uncolumned (f : Field) : Field :=
  { f with nullable := true, unique := false }

/-- What a map forgets of fields is not in the lines that a model has for them. -/
structure Hides (forget : Field → Field) (persistence validation : Bool) : Prop where
  type : ∀ f, (forget f).type = f.type
  lines : ∀ f, (forget f).lines persistence validation = f.lines persistence validation
  accessors : ∀ f, (forget f).accessorLines = f.accessorLines
  shown : ∀ f, (forget f).shownLine = f.shownLine

theorem hides_unchecked (persistence : Bool) : Hides unchecked persistence false where
  type _ := rfl
  lines _ := rfl
  accessors _ := rfl
  shown _ := rfl

theorem hides_uncolumned (validation : Bool) : Hides uncolumned false validation where
  type _ := rfl
  lines _ := rfl
  accessors _ := rfl
  shown _ := rfl

/-- A view of fields that does not see what is forgotten. -/
theorem map_eq_of_forgotten {α : Type} {view : Field → α} (hview : ∀ f, view (forget f) = view f)
    (h : fields.map forget = fields'.map forget) : fields.map view = fields'.map view := by
  have hthrough (fields : List Field) : fields.map view = (fields.map forget).map view := by
    rw [List.map_map]
    exact List.map_congr_left fun f _ => (hview f).symm
  rw [hthrough, h, ← hthrough]

theorem Hides.imports (hides : Hides forget persistence validation)
    (h : fields.map forget = fields'.map forget) :
    imports fields persistence validation lombok = imports fields' persistence validation lombok := by
  have htypes := map_eq_of_forgotten hides.type h
  exact imports_congr fun type => by rw [htypes]

end Field

namespace ModelSheet

variable {s s' : ModelSheet} {forget : Field → Field}

/-- Two sheets that are the same once something is forgotten of their fields, and without
persistence the table too. -/
structure Agrees (forget : Field → Field) (s s' : ModelSheet) : Prop where
  className : s.className = s'.className
  package : s.package = s'.package
  persistence : s.persistence = s'.persistence
  lombok : s.lombok = s'.lombok
  validation : s.validation = s'.validation
  tableName : s.persistence = true → s.tableName = s'.tableName
  fields : s.fields.map forget = s'.fields.map forget

theorem Agrees.headLines (h : Agrees forget s s')
    (hides : Field.Hides forget s.persistence s.validation) : s.headLines = s'.headLines := by
  have himports : Field.imports s.fields s.persistence s.validation s.lombok
      = Field.imports s'.fields s.persistence s.validation s.lombok := hides.imports h.fields
  have htable : (if s.persistence then
        ["@Entity", "@Table(name = \"" ++ s.tableName.written ++ "\")"] else [])
      = if s.persistence then
        ["@Entity", "@Table(name = \"" ++ s'.tableName.written ++ "\")"] else [] := by
    split
    · rename_i hon
      rw [h.tableName hon]
    · rfl
  rw [ModelSheet.headLines, himports, htable, h.className, h.package, h.persistence, h.lombok,
    h.validation, ModelSheet.headLines]

theorem Agrees.lines (h : Agrees forget s s')
    (hides : Field.Hides forget s.persistence s.validation) : s.lines = s'.lines := by
  have hlines := Field.map_eq_of_forgotten hides.lines h.fields
  have haccessors := Field.map_eq_of_forgotten hides.accessors h.fields
  have hshown := Field.map_eq_of_forgotten hides.shown h.fields
  rw [ModelSheet.lines, List.flatMap_def, List.flatMap_def, hlines, haccessors, h.headLines hides,
    objectLines, hshown, ownLines, h.className, h.persistence, h.lombok, h.validation,
    ModelSheet.lines, List.flatMap_def, List.flatMap_def, objectLines, ownLines]

/-- The source of a sheet shows nothing of what is forgotten. -/
theorem Agrees.render (h : Agrees forget s s')
    (hides : Field.Hides forget s.persistence s.validation) (tree : Tree) :
    Store.bundled.render tree "model.java.j2" s.bindings
      = Store.bundled.render tree "model.java.j2" s'.bindings := by
  have hrenders (s : ModelSheet) :
      ∃ x, Store.bundled.render tree "model.java.j2" s.bindings = .ok x :=
    Sheet.renders (s := .model s) List.mem_cons_self tree
  obtain ⟨x, hx⟩ := hrenders s
  obtain ⟨x', hx'⟩ := hrenders s'
  have hsame : x = x' := by
    rw [← String.toList_inj, text_of_render hx, text_of_render hx', h.lines hides]
  rw [hx, hx', hsame]

end ModelSheet

namespace Blueprint

variable {b b' : Blueprint} {forget : Field → Field} {keys : List String} {key : String}

/-- Two blueprints that are the same but for some options, once something is forgotten of their
fields. -/
structure AgreesBut (forget : Field → Field) (keys : List String) (b b' : Blueprint) : Prop where
  kind : b.kind = b'.kind
  name : b.name = b'.name
  package : b.package = b'.package
  fields : b.fields.map forget = b'.fields.map forget
  options : ∀ key ∉ keys, b.options.find? key = b'.options.find? key

theorem AgreesBut.option (h : AgreesBut forget keys b b') (hkey : key ∉ keys) (default : Value) :
    b.option key default = b'.option key default := by
  rw [Blueprint.option, option?, h.options key hkey, ← option?, Blueprint.option]

theorem AgreesBut.switched (h : AgreesBut forget keys b b') (hkey : key ∉ keys) (default : Bool) :
    b.switched key default = b'.switched key default := by
  rw [Blueprint.switched, h.option hkey, Blueprint.switched]

/-- The switches of a model. -/
def modelSwitches : List String :=
  ["include_jpa", "use_lombok", "include_validation"]

theorem AgreesBut.sheet (h : AgreesBut forget keys b b') (hkeys : ∀ key ∈ modelSwitches, key ∉ keys)
    (htable : b.switched "include_jpa" true = true → "table_name" ∉ keys) :
    (ModelSheet.ofBlueprint b).Agrees forget (ModelSheet.ofBlueprint b') where
  className := congrArg Text.trim h.name
  package := h.package
  persistence := h.switched (hkeys _ (by decide)) true
  lombok := h.switched (hkeys _ (by decide)) true
  validation := h.switched (hkeys _ (by decide)) false
  tableName hon := by
    simp only [ModelSheet.ofBlueprint, title, h.name, h.option (htable hon)]
  fields := h.fields

/-- The source of a model, or the failure with which it is refused. -/
def source (b : Blueprint) (tree : Tree) : Except Failure String := do
  Store.bundled.render tree "model.java.j2" (← Sheet.ofBlueprint b).bindings

/-- The source of a model with a proper name is that of its sheet. -/
theorem source_eq (hkind : b.kind = .model) (tree : Tree) : b.source tree = (do
    b.requireName
    Store.bundled.render tree "model.java.j2" (ModelSheet.ofBlueprint b).bindings) := by
  unfold source Sheet.ofBlueprint
  rw [hkind]
  cases b.requireName <;> rfl

theorem exists_source (hkind : b.kind = .model) (hname : ¬ Text.allBlank b.name) (tree : Tree) :
    ∃ x, b.source tree = .ok x := by
  rw [source_eq hkind, requireName, if_neg hname]
  exact Sheet.renders (s := .model (.ofBlueprint b)) List.mem_cons_self tree

theorem AgreesBut.source (h : AgreesBut forget keys b b') (hkind : b.kind = .model)
    (hkeys : ∀ key ∈ modelSwitches, key ∉ keys)
    (htable : b.switched "include_jpa" true = true → "table_name" ∉ keys)
    (hides : Field.Hides forget (b.switched "include_jpa" true)
      (b.switched "include_validation" false)) (tree : Tree) :
    b.source tree = b'.source tree := by
  have hrequire : b.requireName = b'.requireName := by
    rw [requireName, h.name, h.kind, requireName]
  rw [source_eq hkind, source_eq (h.kind ▸ hkind), hrequire,
    (h.sheet hkeys htable).render hides tree]

end Blueprint

open Blueprint

/-- What is only checked of the values of its fields does not show in the source of a model without
validation, and what is only said about their columns and about its table does not show without
persistence. -/
theorem switched_off_does_not_show :
    (∀ b b' : Blueprint, b.kind = .model → AgreesBut Field.unchecked [] b b' →
      b.switched "include_validation" false = false → ∀ tree, b.source tree = b'.source tree) ∧
    ∀ b b' : Blueprint, b.kind = .model → AgreesBut Field.uncolumned ["table_name"] b b' →
      b.switched "include_jpa" true = false → ∀ tree, b.source tree = b'.source tree := by
  refine ⟨fun b b' hkind h hoff => ?_, fun b b' hkind h hoff => ?_⟩
  · refine h.source hkind (fun _ _ => List.not_mem_nil) (fun _ => List.not_mem_nil) ?_
    rw [hoff]
    exact Field.hides_unchecked _
  · refine h.source hkind (by decide) (fun hon => absurd hon (by simp [hoff])) ?_
    rw [hoff]
    exact Field.hides_uncolumned _

/-- A model with an address that is checked and one with the same address that is stored, beside
one where nothing is said about it. -/
theorem switched_off_does_not_show_account :
    let plain : Blueprint :=
      { kind := .model, name := "Account", fields := [{ name := "email", type := "String" }] }
    let checked : Blueprint := { plain with fields :=
      [{ name := "email", type := "String", required := true, pattern := some ".+@.+" }] }
    let volatile : Blueprint := { plain with options := [("include_jpa", .bool false)] }
    let stored : Blueprint := { plain with
      fields := [{ name := "email", type := "String", nullable := false, unique := true }]
      options := [("table_name", .text "accounts"), ("include_jpa", .bool false)] }
    (∃ x, plain.source .empty = .ok x) ∧ checked.source .empty = plain.source .empty ∧
      (∃ x, volatile.source .empty = .ok x) ∧ stored.source .empty = volatile.source .empty := by
  intro plain checked volatile stored
  refine ⟨exists_source rfl (by decide) .empty, ?_, exists_source rfl (by decide) .empty, ?_⟩
  · exact switched_off_does_not_show.1 checked plain rfl ⟨rfl, rfl, rfl, rfl, fun _ _ => rfl⟩ rfl
      .empty
  · refine switched_off_does_not_show.2 stored volatile rfl
      ⟨rfl, rfl, rfl, rfl, fun key hkey => ?_⟩ rfl .empty
    have hother : (key == "table_name") = false :=
      beq_eq_false_iff_ne.2 fun h => hkey (h ▸ List.mem_cons_self)
    show List.lookup key (("table_name", _) :: _) = _
    rw [List.lookup_cons, hother]
    rfl

end Groundwork
