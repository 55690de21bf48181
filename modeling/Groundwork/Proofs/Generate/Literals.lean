import Groundwork.Proofs.Generate.ModelText
import Groundwork.Proofs.Generate.SourceLines
import Groundwork.Proofs.Generate.Unfailing
import Groundwork.Proofs.Request
import Groundwork.Proofs.Text.Literal

/-!
# The string literals of sources

The table of a model, the path of a controller and the secret of the tokens are printed between
quotes, as they are. So they read back as themselves exactly if they have no quote and no backslash.
A pattern that goes into a literal is escaped first.
-/

namespace Groundwork

open Template Text

/-- The literals after a word at the beginnings of the lines of a source, and the texts that they
are there for. -/
structure Quotation where
  template : String
  word : String
  texts : List String

/-- The literals that hold texts of a sheet. -/
def Sheet.quotations : Sheet → List Quotation
  | model s =>
    [⟨"model.java.j2", "@Table(name = ", if s.persistence then [s.tableName.written] else []⟩]
  | controller s =>
    [⟨"controller.java.j2", "@RequestMapping(", [s.basePath ++ "/" ++ Name.collection s.model]⟩]
  | security s =>
    [⟨"security/jwt_utils.java.j2", "    @Value(",
      ["$\x7bapp.jwt.secret:" ++ s.secret.written ++ "\x7d",
        "$\x7bapp.jwt.expiration:" ++ s.expiration.repr ++ "\x7d"]⟩]
  | service _ | repository _ | project _ => []

namespace Text

/-- The literal that comes after a word at the beginning of a line. -/
def literalAfter? (w line : String) : Option (Option String) :=
  if w.toList.isPrefixOf line.toList then some (literal? (line.toList.drop w.toList.length))
  else none

/-- The literals that come after a word at the beginnings of lines. -/
def literalsAfter (w x : String) : List (Option String) :=
  (pieces '\n' x).filterMap (literalAfter? w)

/-- What a text is read as that is put between quotes as it is. -/
def readBetweenQuotes (s : String) : Option String :=
  literal? ('\x22' :: (s.toList ++ ['\x22', ')']))

variable {w line x s : String}

theorem prefix_of_literalAfter? (h : (literalAfter? w line).isSome) : w.toList <+: line.toList := by
  unfold literalAfter? at h
  split at h
  · rename_i hstart
    exact List.isPrefixOf_iff_prefix.1 hstart
  · cases h

theorem literalAfter?_of_line (h : line.toList = w.toList ++ '\x22' :: (s.toList ++ ['\x22', ')'])) :
    literalAfter? w line = some (readBetweenQuotes s) := by
  have hstart : w.toList.isPrefixOf line.toList = true := by
    rw [h, List.isPrefixOf_iff_prefix]
    exact List.prefix_append _ _
  rw [literalAfter?, if_pos hstart, h, List.drop_left]
  rfl

/-- A line with another first character than the word is not read. -/
theorem literalAfter?_of_head {c : Char} (hw : w.toList.head? = some c)
    (h : line.toList.head? ≠ some c) : literalAfter? w line = none := by
  rw [← Option.not_isSome_iff_eq_none]
  intro hsome
  obtain ⟨rest, hrest⟩ := prefix_of_literalAfter? hsome
  rw [← hrest, List.head?_append, hw] at h
  exact h rfl

theorem readBetweenQuotes_iff (h : Lacks ['\n', '\r'] s) :
    readBetweenQuotes s = some s ↔ Lacks ['\x22', '\\'] s := by
  have hends : '\n' ∉ s.toList ∧ '\r' ∉ s.toList :=
    ⟨h _ List.mem_cons_self, h _ (.tail _ List.mem_cons_self)⟩
  rw [readBetweenQuotes, literal?_quoted hends (by decide)]
  simp [Lacks]

end Text

namespace Template

namespace Bundled

def mappingShape : Shape :=
  [.own "@RequestMapping(\"".toList, .named "base_path", .own "/".toList, .named "resource_path",
    .own "\")".toList]

def secretShape : Shape :=
  [.own "    @Value(\"$\x7bapp.jwt.secret:".toList, .named "jwt_secret", .own "\x7d\")".toList]

def expirationShape : Shape :=
  [.own "    @Value(\"$\x7bapp.jwt.expiration:".toList, .named "jwt_expiration",
    .own "\x7d\")".toList]

theorem controller_mapped : ∃ sp : Spelling controller,
    ∀ crud swagger validation : Bool,
      (settledLines (ControllerSheet.choices crud swagger validation) sp).any fun ls =>
        Lined Artifact.controller.printed ls ∧ Begun "@RequestMapping(" [mappingShape] ls :=
  ⟨by repeat' constructor, by decide +kernel⟩

theorem tokenUtilities_valued : ∃ sp : Spelling tokenUtilities,
    (settledLines [] sp).any fun ls =>
      Lined Artifact.security.printed ls ∧ Begun "    @Value(" [secretShape, expirationShape] ls :=
  ⟨by repeat' constructor, by decide +kernel⟩

end Bundled

end Template

/-- A field has no annotation that stands at the beginning of a line. -/
theorem Field.no_class_annotation (f : Field) (persistence validation : Bool) :
    ∀ line ∈ f.lines persistence validation ++ f.accessorLines ++ [f.shownLine],
      line.toList.head? ≠ some '@' := by
  intro line hline
  rw [List.mem_append, List.mem_append] at hline
  rcases hline with (hline | hline) | hline
  · rcases List.mem_cons.1 hline with rfl | hline
    · decide
    simp only [annotationLines, commentLines, List.mem_append, List.mem_map, List.mem_singleton]
      at hline
    rcases hline with (⟨c, -, rfl⟩ | hline | hline) | rfl
    · simp
    · split at hline
      · obtain ⟨a, -, rfl⟩ := List.mem_map.1 hline
        simp
      · cases hline
    · split at hline
      · obtain ⟨a, -, rfl⟩ := List.mem_map.1 hline
        simp
      · cases hline
    · simp [attributeLine]
  · unfold accessorLines getterLine setterLine getterName setterName at hline
    generalize Name.upperFirst f.name = capitalized at hline
    generalize f.name = name at hline
    generalize f.type = type at hline
    simp only [List.mem_cons, List.not_mem_nil, or_false] at hline
    rcases hline with rfl | rfl | rfl | rfl | rfl | rfl | rfl | rfl
    all_goals simp
  · have hsame := List.mem_singleton.1 hline
    unfold shownLine at hsame
    generalize f.name = name at hsame
    subst hsame
    simp

namespace ModelSheet

open Template.Bundled

variable {b : Blueprint} {s : ModelSheet} {tree : Tree} {x : String}

/-- The table is named where a model is stored, and nowhere else. -/
theorem table_of_render (hb : ∀ t ∈ b.texts, Text.Lacks ['\n'] t)
    (h : Store.bundled.render tree "model.java.j2" (ofBlueprint b).bindings = .ok x) :
    literalsAfter "@Table(name = " x
      = if (ofBlueprint b).persistence then [readBetweenQuotes (ofBlueprint b).tableName.written]
        else [] := by
  obtain ⟨m, hm, hlines⟩ := pieces_of_render (unbroken_ofBlueprint hb) h
  generalize ofBlueprint b = s at hm hlines ⊢
  have hnone (ls : List String) (hls : ∀ line ∈ ls, line.toList.head? ≠ some '@') :
      ls.filterMap (literalAfter? "@Table(name = ") = [] :=
    List.filterMap_eq_nil_iff.2 fun line hline =>
      literalAfter?_of_head (by decide) (hls line hline)
  have hfields := hnone (s.fields.flatMap (Field.lines s.persistence s.validation)) (by
    intro line hline
    obtain ⟨f, -, hline⟩ := List.mem_flatMap.1 hline
    exact f.no_class_annotation s.persistence s.validation line
      (List.mem_append_left _ (List.mem_append_left _ hline)))
  have haccessors := hnone (s.fields.flatMap Field.accessorLines) (by
    intro line hline
    obtain ⟨f, -, hline⟩ := List.mem_flatMap.1 hline
    exact f.no_class_annotation s.persistence s.validation line
      (List.mem_append_left _ (List.mem_append_right _ hline)))
  have hshown := hnone (s.fields.map Field.shownLine) (by
    intro line hline
    obtain ⟨f, -, rfl⟩ := List.mem_map.1 hline
    exact f.no_class_annotation s.persistence s.validation _
      (List.mem_append_right _ List.mem_cons_self))
  have himports := hnone ((Field.imports s.fields s.persistence s.validation s.lombok).map
      ("import " ++ · ++ ";")) (by
    intro line hline
    obtain ⟨q, -, rfl⟩ := List.mem_map.1 hline
    simp)
  have htable : literalAfter? "@Table(name = " (Shape.line s.bindings tableShape)
      = some (readBetweenQuotes s.tableName.written) := by
    have hname : s.bindings.written "table_name" = s.tableName.written := rfl
    refine literalAfter?_of_line ?_
    simp [tableShape, Shape.line, hname]
  have hempty : literalAfter? "@Table(name = " "" = none := by decide
  rw [literalsAfter, hlines, List.filterMap_append,
    ModelFrame.filterMap_lines (w := "@Table(name = ") (fun _ => prefix_of_literalAfter?)
      fun line hline => hm.begun line hline _ (by decide), hm.table]
  have hmembers : (if s.lombok then [] else [] ++ s.fields.flatMap Field.accessorLines ++ []
      ++ s.fields.map Field.shownLine ++ []).filterMap (literalAfter? "@Table(name = ") = [] := by
    split
    · rfl
    · simp only [List.filterMap_append, haccessors, hshown, List.filterMap_nil, List.append_nil]
  have hhead : ((if s.persistence then [tableShape] else []).map
      (Shape.line s.bindings)).filterMap (literalAfter? "@Table(name = ")
      = if s.persistence then [readBetweenQuotes s.tableName.written] else [] := by
    split
    · rw [List.map_cons, List.filterMap_cons, htable]
      rfl
    · rfl
  unfold ModelFrame.lines
  dsimp only
  rw [List.map_nil, List.filterMap_append, List.filterMap_append, List.filterMap_append,
    List.filterMap_append, List.filterMap_append, himports, hfields, hmembers, hhead]
  simp [hempty]

end ModelSheet

namespace Sheet

open Template.Bundled

variable {b : Blueprint} {s : Sheet} {q : Quotation} {tree : Tree} {x : String}

theorem template_of_quotation (hq : q ∈ s.quotations) : q.template ∈ s.kind.templates := by
  cases s with
  | model s =>
    rw [List.mem_singleton.1 hq]
    exact (by decide : "model.java.j2" ∈ Artifact.model.templates)
  | controller s =>
    rw [List.mem_singleton.1 hq]
    exact (by decide : "controller.java.j2" ∈ Artifact.controller.templates)
  | security s =>
    rw [List.mem_singleton.1 hq]
    exact (by decide : "security/jwt_utils.java.j2" ∈ Artifact.security.templates)
  | service s | repository s | project s => cases hq

theorem lacks_quoted (hsheet : ofBlueprint b = .ok s)
    (hb : ∀ t ∈ b.texts, Text.Lacks ['\n', '\r'] t) (hq : q ∈ s.quotations) :
    ∀ t ∈ q.texts, Text.Lacks ['\n', '\r'] t := by
  have hvalue (kind : Artifact) (hkind : s.kind = kind) (n : String) (hn : n ∈ kind.printed) :
      Text.Lacks ['\n', '\r'] (s.bindings.written n) :=
    lacks_value hsheet (by decide) hb (hkind ▸ hn)
  intro t ht
  cases s with
  | model s =>
    rw [List.mem_singleton.1 hq] at ht
    dsimp only at ht
    split at ht
    · rw [List.mem_singleton.1 ht]
      exact hvalue .model rfl "table_name" (by decide)
    · cases ht
  | controller s =>
    rw [List.mem_singleton.1 hq] at ht
    rw [List.mem_singleton.1 ht]
    exact ((hvalue .controller rfl "base_path" (by decide)).append (by decide)).append
      (hvalue .controller rfl "resource_path" (by decide))
  | security s =>
    rw [List.mem_singleton.1 hq] at ht
    simp only [List.mem_cons, List.not_mem_nil, or_false] at ht
    rcases ht with rfl | rfl
    · exact (Lacks.append (by decide) (hvalue .security rfl "jwt_secret" (by decide))).append (by decide)
    · exact (Lacks.append (by decide) (hvalue .security rfl "jwt_expiration" (by decide))).append (by decide)
  | service s | repository s | project s => cases hq

/-- Each literal of a source is the text that it is there for, between quotes. -/
theorem literals_of_render (hsheet : ofBlueprint b = .ok s)
    (hb : ∀ t ∈ b.texts, Text.Lacks ['\n', '\r'] t) (hq : q ∈ s.quotations)
    (hx : Store.bundled.render tree q.template s.bindings = .ok x) :
    literalsAfter q.word x = q.texts.map readBetweenQuotes := by
  have hends : ∀ t ∈ b.texts, Text.Lacks ['\n'] t := fun t ht m hm =>
    hb t ht m (List.mem_cons.2 (.inl (List.mem_singleton.1 hm)))
  cases s with
  | model s =>
    rw [List.mem_singleton.1 hq] at hx ⊢
    cases from_of_ok hsheet with
    | model =>
    dsimp only
    rw [ModelSheet.table_of_render hends hx]
    split <;> rfl
  | controller s =>
    rw [List.mem_singleton.1 hq] at hx ⊢
    obtain ⟨sp, hall⟩ := controller_mapped
    obtain ⟨ls, hsettled, hls⟩ := (Option.any_eq_true _ _).1
      (hall s.crud s.swagger s.validation)
    obtain ⟨hlined, hbegun⟩ := of_decide_eq_true hls
    have hlines := pieces_of_render hsheet hends rfl s.knows_choices hsettled hlined hx
    have hbase : s.bindings.written "base_path" = s.basePath := rfl
    have hresource : s.bindings.written "resource_path" = Name.collection s.model := rfl
    have hmapping : (Shape.line s.bindings mappingShape).toList = "@RequestMapping(".toList
        ++ '\x22' :: ((s.basePath ++ "/" ++ Name.collection s.model).toList ++ ['\x22', ')']) := by
      simp [mappingShape, Shape.line, hbase, hresource]
    rw [literalsAfter, hbegun.filterMap_pieces (by decide) (fun _ => prefix_of_literalAfter?) hlines]
    show [Shape.line s.bindings mappingShape].filterMap _ = _
    rw [List.filterMap_cons, literalAfter?_of_line hmapping]
    rfl
  | security s =>
    rw [List.mem_singleton.1 hq] at hx ⊢
    obtain ⟨sp, hls⟩ := tokenUtilities_valued
    obtain ⟨ls, hsettled, hls⟩ := (Option.any_eq_true _ _).1 hls
    obtain ⟨hlined, hbegun⟩ := of_decide_eq_true hls
    have hknows : Knows [] s.bindings := by
      intro n v hv
      cases hv
    have hlines := pieces_of_render hsheet hends rfl hknows hsettled hlined hx
    have hwritten : s.bindings.written "jwt_secret" = s.secret.written := rfl
    have hnumber : s.bindings.written "jwt_expiration" = s.expiration.repr := rfl
    have hsecret : (Shape.line s.bindings secretShape).toList = "    @Value(".toList
        ++ '\x22' :: (("$\x7bapp.jwt.secret:" ++ s.secret.written ++ "\x7d").toList
          ++ ['\x22', ')']) := by
      simp [secretShape, Shape.line, hwritten]
    have hexpiration : (Shape.line s.bindings expirationShape).toList = "    @Value(".toList
        ++ '\x22' :: (("$\x7bapp.jwt.expiration:" ++ s.expiration.repr ++ "\x7d").toList
          ++ ['\x22', ')']) := by
      simp [expirationShape, Shape.line, hnumber]
    rw [literalsAfter, hbegun.filterMap_pieces (by decide) (fun _ => prefix_of_literalAfter?) hlines]
    show [Shape.line s.bindings secretShape, Shape.line s.bindings expirationShape].filterMap _ = _
    rw [List.filterMap_cons, literalAfter?_of_line hsecret]
    dsimp only
    rw [List.filterMap_cons, literalAfter?_of_line hexpiration]
    rfl
  | service s | repository s | project s => cases hq

end Sheet

/-- Whatever texts without line ends a blueprint has, each of the literals of its sources reads back
as the text that it is there for exactly if that text has no quote and no backslash. The patterns of
fields, which are escaped, read back always. -/
theorem literals_kept_iff (b : Blueprint) (s : Sheet) (tree : Tree)
    (hsheet : Sheet.ofBlueprint b = .ok s) (hends : ∀ t ∈ b.texts, Text.Lacks ['\n', '\r'] t) :
    (∀ q ∈ s.quotations, ∃ x,
      Store.bundled.render tree q.template s.bindings = .ok x ∧
        literalsAfter q.word x = q.texts.map readBetweenQuotes ∧
        (literalsAfter q.word x = q.texts.map some ↔ ∀ t ∈ q.texts, Text.Lacks ['\x22', '\\'] t)) ∧
      ∀ f ∈ b.fields, ∀ p ∈ f.pattern, readBetweenQuotes (Field.escapedPattern p) = some p := by
  constructor
  · intro q hq
    obtain ⟨x, hx⟩ := Sheet.renders (Sheet.template_of_quotation hq) tree
    have hread := Sheet.literals_of_render hsheet hends hq hx
    refine ⟨x, hx, hread, ?_⟩
    rw [hread, List.map_inj_left]
    exact forall₂_congr fun t ht =>
      readBetweenQuotes_iff (Sheet.lacks_quoted hsheet hends hq t ht)
  · intro f hf p hp
    have hpattern : Text.Lacks ['\n', '\r'] p :=
      b.lacks_fields hends f hf p (by simp [Field.texts, Option.mem_def.1 hp])
    exact literal?_escapedPattern
      ⟨hpattern _ List.mem_cons_self, hpattern _ (.tail _ List.mem_cons_self)⟩

/-- A controller whose path has a quote in it. -/
def quotedPathRequest : ControllerRequest where
  name := "ProductController"
  basePath := " /shop\"s/\\v1/ "
  crud := true

theorem quotedPathRequest_literals :
    let b := Request.below "com.shop" (.controller quotedPathRequest)
    ∃ s, Sheet.ofBlueprint b = .ok s ∧ (∀ t ∈ b.texts, Text.Lacks ['\n', '\r'] t) ∧
      (∀ q ∈ s.quotations, ∃ x,
        Store.bundled.render .empty q.template s.bindings = .ok x ∧
          literalsAfter q.word x = q.texts.map readBetweenQuotes ∧
          (literalsAfter q.word x = q.texts.map some ↔
            ∀ t ∈ q.texts, Text.Lacks ['\x22', '\\'] t)) ∧
      ∀ f ∈ b.fields, ∀ p ∈ f.pattern, readBetweenQuotes (Field.escapedPattern p) = some p := by
  intro b
  have hends : ∀ t ∈ b.texts, Text.Lacks ['\n', '\r'] t := by decide +kernel
  have hok : (Sheet.ofBlueprint b).isOk = true := by decide +kernel
  obtain ⟨s, hs⟩ := exists_of_isOk hok
  exact ⟨s, hs, hends, literals_kept_iff b s .empty hs hends⟩

/-- A model whose table is named with a quote. -/
def quotedTableRequest : ModelRequest where
  name := "Product"
  tokens := ["name:String"]
  table := some "a\"b"

theorem table_cut_at_quote :
    let b := Request.below "com.example" (.model quotedTableRequest)
    Sheet.ofBlueprint b = .ok (.model (.ofBlueprint b)) ∧
      (∀ t ∈ b.texts, Text.Lacks ['\n', '\r'] t) ∧
      ∃ x, Store.bundled.render .empty "model.java.j2" (ModelSheet.ofBlueprint b).bindings = .ok x ∧
        (ModelSheet.ofBlueprint b).tableName = .text "a\"b" ∧
        literalsAfter "@Table(name = " x = [some "a"] ∧
        literalsAfter "@Table(name = " x ≠ [some "a\"b"] := by
  have hsheet : Sheet.ofBlueprint (Request.below "com.example" (.model quotedTableRequest))
      = .ok (.model (.ofBlueprint (Request.below "com.example" (.model quotedTableRequest)))) := rfl
  intro b
  have hends : ∀ t ∈ b.texts, Text.Lacks ['\n', '\r'] t := by decide +kernel
  have htable : (ModelSheet.ofBlueprint b).tableName = .text "a\"b" := rfl
  have hmem : "model.java.j2" ∈ Artifact.model.templates := List.mem_cons_self
  obtain ⟨x, hx⟩ := Sheet.renders (s := .model (.ofBlueprint b)) hmem .empty
  have hread := ModelSheet.table_of_render (fun t ht m hm => hends t ht m (by
    rw [List.mem_singleton.1 hm]
    exact List.mem_cons_self)) hx
  have hstored : (ModelSheet.ofBlueprint b).persistence = true := rfl
  have hcut : readBetweenQuotes "a\"b" = some "a" := by decide +kernel
  rw [hstored, if_pos rfl, htable, Value.written_text, hcut] at hread
  refine ⟨hsheet, hends, x, hx, htable, hread, ?_⟩
  rw [hread]
  decide

end Groundwork
