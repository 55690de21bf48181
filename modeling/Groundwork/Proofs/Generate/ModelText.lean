import Groundwork.Proofs.Printed
import Groundwork.Proofs.Template.Heading
import Groundwork.Proofs.Template.Lines
import Groundwork.Proofs.Template.Yields
import Groundwork.Sheet.Model

/-!
# The text of a model

A model is printed in lines. Its fields have lines of their own: where they are declared, where they
are read and set, and where the model is shown as a text. All other lines make a frame that depends
on two switches only, so what can be seen of their beginnings is checked once for every model.
-/

namespace Groundwork

open Template Text

namespace Field

/-- What the annotations of the field are printed with. -/
def annotationLines (persistence validation : Bool) (f : Field) : List String :=
  (if validation then f.validationAnnotations.map ("    " ++ ·) else [])
    ++ (if persistence then f.columnAnnotation?.toList.map ("    " ++ ·) else [])

def commentLines (f : Field) : List String :=
  (f.comment.filter (· != "")).toList.map fun c => "    /** " ++ c ++ " */"

def attributeLine (f : Field) : String :=
  "    private " ++ f.type ++ " " ++ f.name ++ ";"

/-- The lines that declare a field. -/
def lines (persistence validation : Bool) (f : Field) : List String :=
  "" :: (f.commentLines ++ f.annotationLines persistence validation ++ [f.attributeLine])

def getterName (f : Field) : String :=
  "get" ++ Name.upperFirst f.name

def setterName (f : Field) : String :=
  "set" ++ Name.upperFirst f.name

def getterLine (f : Field) : String :=
  "    public " ++ f.type ++ " " ++ f.getterName ++ "() \x7b"

def setterLine (f : Field) : String :=
  "    public void " ++ f.setterName ++ "(" ++ f.type ++ " " ++ f.name ++ ") \x7b"

/-- The lines of the two methods that read and set a field. -/
def accessorLines (f : Field) : List String :=
  ["", f.getterLine, "        return " ++ f.name ++ ";", "    \x7d", "", f.setterLine,
    "        this." ++ f.name ++ " = " ++ f.name ++ ";", "    \x7d"]

/-- The line that shows a field as a text. -/
def shownLine (f : Field) : String :=
  "                \", " ++ f.name ++ "=\" + " ++ f.name ++ " +"

end Field

/-- The lines of a model that are not those of its fields, in the order of their places. -/
structure ModelFrame where
  opening : List Shape := []
  head : List Shape := []
  methods : List Shape := []
  equality : List Shape := []
  closing : List Shape := []
  last : List Shape := []
  deriving DecidableEq

namespace ModelFrame

def shapes (m : ModelFrame) : List Shape :=
  m.opening ++ m.head ++ m.methods ++ m.equality ++ m.closing ++ m.last

/-- The lines of a frame that begin with a word. -/
def pick (w : String) (m : ModelFrame) : ModelFrame :=
  let begun (ls : List Shape) := ls.filter (Shape.begins? w.toList · = some true)
  { opening := begun m.opening
    head := begun m.head
    methods := begun m.methods
    equality := begun m.equality
    closing := begun m.closing
    last := begun m.last }

/-- The lines of a model. -/
def lines (m : ModelFrame) (s : ModelSheet) : List String :=
  let fixed (ls : List Shape) := ls.map (Shape.line s.bindings)
  fixed m.opening
    ++ (Field.imports s.fields s.persistence s.validation s.lombok).map ("import " ++ · ++ ";")
    ++ fixed m.head ++ s.fields.flatMap (Field.lines s.persistence s.validation)
    ++ (if s.lombok then []
      else fixed m.methods ++ s.fields.flatMap Field.accessorLines ++ fixed m.equality
        ++ s.fields.map Field.shownLine ++ fixed m.closing)
    ++ fixed m.last

end ModelFrame

namespace Template

/-- A template up to its first repetition. -/
def upToLoop : Template → Template
  | .done | .loop .. => .done
  | .text s next => .text s (upToLoop next)
  | .value e next => .value e (upToLoop next)
  | .branch test yes no next => .branch test yes no (upToLoop next)

/-- What follows the first repetition of a template. -/
def afterLoop : Template → Template
  | .done => .done
  | .loop _ _ _ _ next => next
  | .text _ next | .value _ next | .branch _ _ _ next => afterLoop next

/-- What is printed if the choice that a template begins with holds. -/
def firstChoice : Template → Template
  | .branch _ yes _ _ => yes
  | t => t

namespace Bundled

def modelChoices (persistence lombok : Bool) : Bindings :=
  [("include_jpa", .bool persistence), ("use_lombok", .bool lombok)]

def tableShape : Shape :=
  [.own "@Table(name = \"".toList, .named "table_name", .own "\")".toList]

def idShape : Shape :=
  [.own "    private Long id;".toList]

def constructorShape : Shape :=
  [.own "    public ".toList, .named "class_name", .own "() \x7b".toList]

def ownMethods : List Shape :=
  [constructorShape, [.own "    public Long getId() \x7b".toList],
    [.own "    public void setId(Long id) \x7b".toList]]

def objectMethods : List Shape :=
  [[.own "    public boolean equals(Object o) \x7b".toList],
    [.own "    public int hashCode() \x7b".toList], [.own "    public String toString() \x7b".toList]]

def pickedWords : List String :=
  ["    private ", "    public ", "@Table(name = "]

/-- What is checked of the frame of a model. -/
structure Framed (persistence : Bool) (m : ModelFrame) : Prop where
  begun : ∀ line ∈ m.shapes, ∀ w ∈ pickedWords, (line.begins? w.toList).isSome
  attributes : m.pick "    private " = { head := [idShape] }
  methods : m.pick "    public " = { methods := ownMethods, equality := objectMethods }
  table : m.pick "@Table(name = " = { head := if persistence then [tableShape] else [] }
  id : m.head.getLast? = some idShape
  names : ∀ line ∈ m.shapes, ∀ n ∈ line.names, n ∈ ["package_name", "class_name", "table_name"]
  closed : ∀ line ∈ m.shapes, line.spares ['\n']

instance (persistence : Bool) (m : ModelFrame) : Decidable (Framed persistence m) :=
  decidable_of_iff (_ ∧ _ ∧ _ ∧ _ ∧ _ ∧ _ ∧ _)
    ⟨fun ⟨h₁, h₂, h₃, h₄, h₅, h₆, h₇⟩ => ⟨h₁, h₂, h₃, h₄, h₅, h₆, h₇⟩,
      fun h => ⟨h.begun, h.attributes, h.methods, h.table, h.id, h.names, h.closed⟩⟩

/-- The frame of a model. -/
def modelFrame (persistence lombok : Bool) : ModelFrame where
  opening := [[.own "package ".toList, .named "package_name", .own ";".toList], []]
  head := [[], [.own "/**".toList],
      [.own " * ".toList, .named "class_name", .own " entity.".toList], [.own " */".toList]]
    ++ (if persistence then [[.own "@Entity".toList], tableShape] else [])
    ++ (if lombok then [[.own "@Data".toList], [.own "@NoArgsConstructor".toList],
        [.own "@AllArgsConstructor".toList]]
      else [])
    ++ [[.own "public class ".toList, .named "class_name", .own " \x7b".toList], []]
    ++ (if persistence then [[.own "    @Id".toList],
        [.own "    @GeneratedValue(strategy = GenerationType.IDENTITY)".toList]]
      else [])
    ++ [idShape]
  methods := [[], constructorShape, [.own "    \x7d".toList], [],
    [.own "    public Long getId() \x7b".toList], [.own "        return id;".toList],
    [.own "    \x7d".toList], [], [.own "    public void setId(Long id) \x7b".toList],
    [.own "        this.id = id;".toList], [.own "    \x7d".toList]]
  equality := [[], [.own "    @Override".toList],
    [.own "    public boolean equals(Object o) \x7b".toList],
    [.own "        if (this == o) return true;".toList],
    [.own "        if (o == null || getClass() != o.getClass()) return false;".toList],
    [.own "        ".toList, .named "class_name", .own " that = (".toList, .named "class_name",
      .own ") o;".toList],
    [.own "        return Objects.equals(id, that.id);".toList], [.own "    \x7d".toList], [],
    [.own "    @Override".toList], [.own "    public int hashCode() \x7b".toList],
    [.own "        return Objects.hash(id);".toList], [.own "    \x7d".toList], [],
    [.own "    @Override".toList], [.own "    public String toString() \x7b".toList],
    [.own "        return \"".toList, .named "class_name", .own "\x7b\" +".toList],
    [.own "                \"id=\" + id +".toList]]
  closing := [[.own "                \"\x7d\";".toList], [.own "    \x7d".toList]]
  last := [[.own "\x7d".toList]]

theorem framed_modelFrame : ∀ persistence lombok : Bool,
    Framed persistence (modelFrame persistence lombok) := by
  decide +kernel

/-- The frame of a model, from the stretches of its template. -/
def modelFrame? {front head methods equality closing last : Template} (front : Spelling front)
    (head : Spelling head) (methods : Spelling methods) (equality : Spelling equality)
    (closing : Spelling closing) (last : Spelling last) (known : Bindings) : Option ModelFrame := do
  return {
    opening := ← settledLines known front
    head := ← settledLines known head
    methods := ← settledLines known methods
    equality := ← settledLines known equality
    closing := ← settledLines known closing
    last := ← settledLines known last }

end Bundled

end Template

namespace Field

variable {f : Field} {b : Bindings}

/-- Every annotation says so with its first character. -/
theorem annotation_of_column {a : String} (h : f.columnAnnotation? = some a) :
    ∃ rest, a.toList = '@' :: rest := by
  rw [columnAnnotation?_eq] at h
  split at h
  · cases h
  · cases h
    simp only [String.toList_append]
    exact ⟨_, rfl⟩

theorem annotation_of_validation {a : String} (h : a ∈ f.validationAnnotations) :
    ∃ rest, a.toList = '@' :: rest := by
  have hset {test : Bool} {word : String} (hword : word.toList.head? = some '@')
      (h : a ∈ if test then [word] else []) : ∃ rest, a.toList = '@' :: rest := by
    split at h
    · rw [List.mem_singleton.1 h]
      exact ⟨_, List.eq_cons_of_mem_head? hword⟩
    · cases h
  simp only [validationAnnotations, textAnnotations, numericAnnotations, List.mem_append] at h
  rcases h with (h | h) | h
  · exact hset (by decide) h
  · split at h
    · simp only [List.mem_append, List.mem_map] at h
      rcases h with (h | ⟨n, -, rfl⟩) | ⟨p, -, rfl⟩
      · exact hset (by decide) h
      all_goals
        simp only [String.toList_append]
        exact ⟨_, rfl⟩
    · cases h
  · split at h
    · simp only [List.mem_append, List.mem_map] at h
      rcases h with ⟨n, -, rfl⟩ | ⟨n, -, rfl⟩
      all_goals
        simp only [String.toList_append]
        exact ⟨_, rfl⟩
    · cases h

/-- What a member of the field is that is only there if it has a value. -/
def optionalMember (key : String) : Option Value → Operand
  | some v => .value v
  | none => .absent (.member .object key)

theorem lookup_entry (f : Field) : ∃ entries, f.entry = .object entries ∧
    entries.lookup "comment" = (f.comment.filter (· != "")).map Value.text ∧
    entries.lookup "column_annotation" = f.columnAnnotation?.map Value.text ∧
    entries.lookup "validation_annotations"
      = if f.validationAnnotations.isEmpty then none
        else some (.list (f.validationAnnotations.map .text)) := by
  refine ⟨_, rfl, ?_, ?_, ?_⟩
  all_goals
    simp only [List.lookup_append, List.lookup_cons, List.lookup_nil]
    cases f.columnAnnotation? <;> cases f.comment.filter (· != "") <;>
      by_cases hnone : f.validationAnnotations.isEmpty <;> simp [hnone, List.lookup_cons]

theorem eval_member {key : String} {v : Option Value}
    (h : ∃ entries, f.entry = .object entries ∧ entries.lookup key = v) :
    (Expr.member (.name "field") key).eval (("field", f.entry) :: b)
      = .ok (optionalMember key v) := by
  obtain ⟨entries, hentry, rfl⟩ := h
  rw [hentry]
  show (Operand.value (.object entries)).member key = _
  rw [Operand.member]
  cases entries.lookup key <;> rfl

end Field

namespace Template

variable {b : Bindings} {f : Field} {cs : List Char} {next : Template}

/-- The place for a member of a field that is always there. -/
theorem Yields.putMember {key : String} {s : String}
    (h : ∃ entries, f.entry = .object entries ∧ entries.lookup key = some (.text s))
    (hnext : Yields next (("field", f.entry) :: b) cs) :
    Yields (Template.putMember "field" key next) (("field", f.entry) :: b) (s.toList ++ cs) :=
  .value (Field.eval_member h) hnext

namespace Bundled

open Field

/-- A choice by a switch and a member of a field. -/
theorem eval_switched {key member : String} {on : Bool} {v : Option Value} (hkey : key ≠ "field")
    (hon : b.find? key = some (.bool on))
    (h : ∃ entries, f.entry = .object entries ∧ entries.lookup member = v) :
    (Expr.both (.name key) (.member (.name "field") member)).eval (("field", f.entry) :: b)
      = .ok (if on then optionalMember member v else .value (.bool false)) := by
  have hfind : Bindings.find? (("field", f.entry) :: b) key = some (.bool on) := by
    rw [← hon]
    show List.lookup key (("field", f.entry) :: b) = List.lookup key b
    rw [List.lookup_cons, beq_false_of_ne hkey]
  have hmember := eval_member (b := b) h
  rw [Expr.eval, Expr.eval, hfind]
  cases on with
  | false => rfl
  | true => exact hmember

theorem yields_comment (h : Yields next (("field", f.entry) :: b) cs) :
    Yields (.branch (.member (.name "field") "comment")
      (.text "    /** " <| .putMember "field" "comment" <| .text " */\n" .done) .done next)
      (("field", f.entry) :: b) (linesText f.commentLines ++ cs) := by
  obtain ⟨entries, hentry, hcomment, -⟩ := f.lookup_entry
  have hmember : ∃ entries, f.entry = .object entries ∧ entries.lookup "comment" = _ :=
    ⟨entries, hentry, hcomment⟩
  unfold commentLines
  cases hgiven : f.comment.filter (· != "") with
  | none =>
    rw [hgiven] at hmember
    exact .branch (eval_member hmember) nofun (fun _ => .done) h
  | some c =>
    rw [hgiven] at hmember
    have hne : c ≠ "" := by
      have hfilter := (Option.filter_eq_some_iff.1 hgiven).2
      simpa using hfilter
    have hholds : (optionalMember "comment" ((some c).map .text)).holds := by
      simpa [optionalMember, Operand.holds, Value.holds] using hne
    refine .branch (eval_member hmember) (fun _ => ?_) (fun hno => absurd hholds hno) h
    refine .of_eq (.text <| .putMember hmember <| .text .done) ?_
    simp

theorem yields_column {persistence : Bool} (hon : b.find? "include_jpa" = some (.bool persistence))
    (h : Yields next (("field", f.entry) :: b) cs) :
    Yields (.branch (.both (.name "include_jpa") (.member (.name "field") "column_annotation"))
      (.text "    " <| .putMember "field" "column_annotation" <| .text "\n" .done) .done next)
      (("field", f.entry) :: b)
      (linesText (if persistence then f.columnAnnotation?.toList.map ("    " ++ ·) else []) ++ cs) := by
  obtain ⟨entries, hentry, -, hcolumn, -⟩ := f.lookup_entry
  have hmember : ∃ entries, f.entry = .object entries ∧ entries.lookup "column_annotation" = _ :=
    ⟨entries, hentry, hcolumn⟩
  have heval := eval_switched (b := b) (by decide) hon hmember
  cases persistence with
  | false => exact .branch heval nofun (fun _ => .done) h
  | true =>
    rw [if_pos rfl] at heval ⊢
    cases hgiven : f.columnAnnotation? with
    | none =>
      rw [hgiven] at heval
      exact .branch heval nofun (fun _ => .done) h
    | some a =>
      rw [hgiven] at heval hmember
      have hne : a ≠ "" := by
        rintro rfl
        obtain ⟨rest, hrest⟩ := annotation_of_column hgiven
        cases hrest
      have hholds : (optionalMember "column_annotation" ((some a).map .text)).holds := by
        simpa [optionalMember, Operand.holds, Value.holds] using hne
      refine .branch heval (fun _ => ?_) (fun hno => absurd hholds hno) h
      refine .of_eq (.text <| .putMember hmember <| .text .done) ?_
      simp

theorem yields_validation {validation : Bool}
    (hon : b.find? "include_validation" = some (.bool validation))
    (h : Yields next (("field", f.entry) :: b) cs) :
    Yields (.branch (.both (.name "include_validation")
        (.member (.name "field") "validation_annotations"))
      (.loop "annotation" (.member (.name "field") "validation_annotations")
        (.text "    " <| .put "annotation" <| .text "\n" .done) .done .done) .done next)
      (("field", f.entry) :: b)
      (linesText (if validation then f.validationAnnotations.map ("    " ++ ·) else []) ++ cs) := by
  obtain ⟨entries, hentry, -, -, hannotations⟩ := f.lookup_entry
  have hmember : ∃ entries, f.entry = .object entries ∧
      entries.lookup "validation_annotations" = _ := ⟨entries, hentry, hannotations⟩
  have heval := eval_switched (b := b) (by decide) hon hmember
  cases validation with
  | false => exact .branch heval nofun (fun _ => .done) h
  | true =>
    rw [if_pos rfl] at heval ⊢
    by_cases hnone : f.validationAnnotations.isEmpty
    · rw [if_pos hnone] at heval
      rw [List.isEmpty_iff.1 hnone]
      exact .branch heval nofun (fun _ => .done) h
    · rw [if_neg hnone] at heval hmember
      have hholds : (optionalMember "validation_annotations"
          (some (.list (f.validationAnnotations.map .text)))).holds := by
        simpa [optionalMember, Operand.holds, Value.holds] using hnone
      refine .branch heval (fun _ => ?_) (fun hno => absurd hholds hno) h
      have hround : ∀ a ∈ f.validationAnnotations, ∀ b : Bindings,
          Yields (.text "    " <| .put "annotation" <| .text "\n" .done)
            (("annotation", .text a) :: b) (linesText ["    " ++ a]) := by
        intro a _ b
        refine .of_eq (.text <| .value rfl <| .text .done) ?_
        simp [Operand.written]
      refine .of_eq (.loop (eval_member hmember) rfl (fun a ha => hround a ha _) .done) ?_
      rw [List.append_nil, ← linesText_flatMap, List.map_eq_flatMap]

/-- The template of a model in the stretches of its frame and the rounds for its imports and
fields. -/
theorem model_stretches : ∃ front head methods equality closing last : Template,
    ∃ importBody fieldBody accessorBody shownBody : Template,
    model = (front.followedBy <| .loop "qualified" (.name "imports") importBody .done <|
      head.followedBy <| .loop "field" (.name "fields") fieldBody .done <|
      .branch (.negate (.name "use_lombok"))
        (methods.followedBy <| .loop "field" (.name "fields") accessorBody .done <|
          equality.followedBy <| .loop "field" (.name "fields") shownBody .done closing)
        .done last) ∧
    (∃ (sp₁ : Spelling front) (sp₂ : Spelling head) (sp₃ : Spelling methods)
      (sp₄ : Spelling equality) (sp₅ : Spelling closing) (sp₆ : Spelling last),
      ∀ persistence lombok : Bool,
        modelFrame? sp₁ sp₂ sp₃ sp₄ sp₅ sp₆ (modelChoices persistence lombok)
          = some (modelFrame persistence lombok)) ∧
    (∀ b q, Yields importBody (("qualified", .text q) :: b) (linesText ["import " ++ q ++ ";"])) ∧
    (∀ b f, Yields accessorBody (("field", Field.entry f) :: b) (linesText f.accessorLines)) ∧
    (∀ b f, Yields shownBody (("field", Field.entry f) :: b) (linesText [f.shownLine])) ∧
    ∀ (b : Bindings) f persistence validation, b.find? "include_jpa" = some (.bool persistence) →
      b.find? "include_validation" = some (.bool validation) →
      Yields fieldBody (("field", Field.entry f) :: b)
        (linesText (f.lines persistence validation)) := by
  refine ⟨upToLoop model, upToLoop (afterLoop model),
    upToLoop (firstChoice (afterLoop (afterLoop model))),
    upToLoop (afterLoop (firstChoice (afterLoop (afterLoop model)))), _, _, _, _, _, _, rfl,
    ?frame, ?imports, ?accessors, ?shown, ?fields⟩
  case frame =>
    exact ⟨by repeat' constructor, by repeat' constructor, by repeat' constructor,
      by repeat' constructor, by repeat' constructor, by repeat' constructor, by decide +kernel⟩
  case imports =>
    intro b q
    refine .of_eq (.text <| .value rfl <| .text .done) ?_
    simp [Operand.written, Value.written]
  case accessors =>
    intro b f
    have hname : ∃ entries, f.entry = .object entries ∧
        entries.lookup "name" = some (.text f.name) := ⟨_, rfl, rfl⟩
    have htype : ∃ entries, f.entry = .object entries ∧
        entries.lookup "type" = some (.text f.type) := ⟨_, rfl, rfl⟩
    have hcapitalized : ∃ entries, f.entry = .object entries ∧
        entries.lookup "capitalized_name" = some (.text (Name.upperFirst f.name)) := ⟨_, rfl, rfl⟩
    refine .of_eq (.text <| .text <| .putMember htype <| .text <| .putMember hcapitalized <| .text <|
      .text <| .putMember hname <| .text <| .text <| .text <|
      .text <| .putMember hcapitalized <| .text <| .putMember htype <| .text <| .putMember hname <|
      .text <| .text <| .putMember hname <| .text <| .putMember hname <| .text <| .text .done) ?_
    unfold accessorLines getterLine setterLine getterName setterName
    generalize Name.upperFirst f.name = capitalized
    generalize f.name = name
    generalize f.type = type
    simp
  case shown =>
    intro b f
    have hname : ∃ entries, f.entry = .object entries ∧
        entries.lookup "name" = some (.text f.name) := ⟨_, rfl, rfl⟩
    refine .of_eq (.text <| .putMember hname <| .text <| .putMember hname <| .text .done) ?_
    unfold shownLine
    generalize f.name = name
    simp
  case fields =>
    intro b f persistence validation hpersistence hvalidation
    have hname : ∃ entries, f.entry = .object entries ∧
        entries.lookup "name" = some (.text f.name) := ⟨_, rfl, rfl⟩
    have htype : ∃ entries, f.entry = .object entries ∧
        entries.lookup "type" = some (.text f.type) := ⟨_, rfl, rfl⟩
    refine .of_eq (.text <| yields_comment <| yields_validation hvalidation <|
      yields_column hpersistence <| .text <| .putMember htype <| .text <| .putMember hname <|
      .text .done) ?_
    unfold Field.lines annotationLines attributeLine
    generalize f.name = name
    generalize f.type = type
    simp [linesText_append]

end Bundled

end Template

namespace ModelSheet

open Template.Bundled

theorem knows_choices (s : ModelSheet) :
    Knows (modelChoices s.persistence s.lombok) s.bindings := by
  intro n v h
  have hmem := mem_of_lookup h
  simp only [modelChoices, List.mem_cons, List.not_mem_nil, or_false, Prod.mk.injEq] at hmem
  rcases hmem with ⟨rfl, rfl⟩ | ⟨rfl, rfl⟩ <;> rfl

def frame (s : ModelSheet) : ModelFrame :=
  modelFrame s.persistence s.lombok

theorem framed_frame (s : ModelSheet) : Framed s.persistence s.frame :=
  framed_modelFrame _ _

/-- A model is printed in the lines of its frame and its fields. -/
theorem yields_lines (s : ModelSheet) :
    Yields model s.bindings (linesText (s.frame.lines s)) := by
  obtain ⟨front, head, methods, equality, closing, last, importBody, fieldBody, accessorBody,
    shownBody, hmodel, ⟨sp₁, sp₂, sp₃, sp₄, sp₅, sp₆, hframes⟩, himports, haccessors, hshown,
    hfields⟩ := model_stretches
  have hm : _ = some s.frame := hframes s.persistence s.lombok
  generalize s.frame = m at hm ⊢
  obtain ⟨opening, hopening, hm⟩ := Option.bind_eq_some_iff.1 hm
  obtain ⟨headLines, hhead, hm⟩ := Option.bind_eq_some_iff.1 hm
  obtain ⟨methodLines, hmethods, hm⟩ := Option.bind_eq_some_iff.1 hm
  obtain ⟨equalityLines, hequality, hm⟩ := Option.bind_eq_some_iff.1 hm
  obtain ⟨closingLines, hclosing, hm⟩ := Option.bind_eq_some_iff.1 hm
  obtain ⟨lastLines, hlast, hm⟩ := Option.bind_eq_some_iff.1 hm
  cases hm
  have hk := s.knows_choices
  have hloop {body next : Template} {g : Field → List Char} {cs : List Char}
      (hbody : ∀ f, Yields body (("field", f.entry) :: s.bindings) (g f))
      (hnext : Yields next s.bindings cs) :
      Yields (.loop "field" (.name "fields") body .done next) s.bindings
        (s.fields.flatMap g ++ cs) :=
    .loop rfl rfl (fun f _ => hbody f) hnext
  have hmembers := Yields.followedBy (.of_settledLines hk hmethods) <|
    hloop (haccessors s.bindings) <| .followedBy (.of_settledLines hk hequality) <|
    hloop (hshown s.bindings) <| .of_settledLines hk hclosing
  have htest : (Expr.negate (.name "use_lombok")).eval s.bindings
      = .ok (.value (.bool (!s.lombok))) := rfl
  rw [hmodel]
  refine .of_eq (.followedBy (.of_settledLines hk hopening) <|
    .loop rfl rfl (fun q _ => himports s.bindings q) <|
    .followedBy (.of_settledLines hk hhead) <|
    hloop (fun f => hfields s.bindings f s.persistence s.validation rfl rfl) <|
    .choose htest hmembers .done <| .of_settledLines hk hlast) ?_
  have hsingles {α : Type} (as : List α) (g : α → String) :
      linesText (as.map g) = as.flatMap fun a => linesText [g a] := by
    rw [← linesText_flatMap, List.map_eq_flatMap]
  have hshownLines := hsingles s.fields Field.shownLine
  have himportLines := hsingles
    (Field.imports s.fields s.persistence s.validation s.lombok) ("import " ++ · ++ ";")
  have hholds : (Operand.value (.bool (!s.lombok))).holds = !s.lombok := rfl
  rw [ModelFrame.lines, hholds]
  dsimp only
  simp only [linesText_append, linesText_flatMap, himportLines, List.append_assoc]
  cases s.lombok with
  | true => rfl
  | false =>
    simp only [linesText_append, linesText_flatMap, hshownLines, List.append_assoc, Bool.not_false,
      if_true, Bool.false_eq_true, if_false]

/-- The values of the frame of a model. -/
theorem written_of_name {s : ModelSheet} {n : String}
    (h : n ∈ ["package_name", "class_name", "table_name"]) :
    s.bindings.written n ∈ [s.package, s.className, s.tableName.written] := by
  simp only [List.mem_cons, List.not_mem_nil, or_false] at h
  rcases h with rfl | rfl | rfl
  · exact List.mem_cons_self
  · exact .tail _ List.mem_cons_self
  · exact .tail _ (.tail _ List.mem_cons_self)

end ModelSheet

namespace ModelFrame

open Template.Bundled

variable {m : ModelFrame} {s : ModelSheet} {w : String}

/-- Where only lines are read that begin with a word, the other lines of the frame are of no
account. -/
theorem filterMap_lines {α : Type} {f : String → Option α}
    (hf : ∀ line, (f line).isSome → w.toList <+: line.toList)
    (hbegun : ∀ line ∈ m.shapes, (line.begins? w.toList).isSome) :
    (m.lines s).filterMap f = ((m.pick w).lines s).filterMap f := by
  have hstretch (ls : List Shape) (hls : ls ⊆ m.shapes) :
      (ls.map (Shape.line s.bindings)).filterMap f
        = ((ls.filter (Shape.begins? w.toList · = some true)).map
            (Shape.line s.bindings)).filterMap f :=
    Shape.filterMap_begins hf fun line hline => hbegun line (hls hline)
  have hshapes : m.opening ⊆ m.shapes ∧ m.head ⊆ m.shapes ∧ m.methods ⊆ m.shapes ∧
      m.equality ⊆ m.shapes ∧ m.closing ⊆ m.shapes ∧ m.last ⊆ m.shapes := by
    refine ⟨?_, ?_, ?_, ?_, ?_, ?_⟩
    all_goals
      intro line h
      simp [shapes, h]
  obtain ⟨h₁, h₂, h₃, h₄, h₅, h₆⟩ := hshapes
  unfold lines
  dsimp only
  simp only [List.filterMap_append, hstretch _ h₁, hstretch _ h₂, hstretch _ h₆]
  congr 2
  split
  · rfl
  · simp only [List.filterMap_append, hstretch _ h₃, hstretch _ h₄, hstretch _ h₅]
    rfl

end ModelFrame

/-- The lines of a field end where the template ends them, if its texts end none. -/
theorem Field.closed_lines {f : Field} (hf : ∀ t ∈ f.texts, Text.Lacks ['\n'] t)
    (persistence validation : Bool) :
    ∀ line ∈ f.lines persistence validation ++ f.accessorLines ++ [f.shownLine],
      '\n' ∉ line.toList := by
  have hmarks : ['\n'] ⊆ layoutMarks := by decide
  have hend {t : String} (ht : Text.Lacks ['\n'] t) : '\n' ∉ t.toList := ht _ List.mem_cons_self
  have hname := hend (hf f.name (by simp [texts]))
  have htype := hend (hf f.type (by simp [texts]))
  have hcapitalized := hend (lacks_upperFirst hmarks (hf f.name (by simp [texts])))
  have hcolumn {a : String} (ha : f.columnAnnotation? = some a) := hend (lacks_column hmarks ha)
  have hvalidation {a : String} (ha : a ∈ f.validationAnnotations) :=
    hend (lacks_validationAnnotations hmarks hf ha)
  have hcomment {c : String} (hc : f.comment.filter (· != "") = some c) : '\n' ∉ c.toList := by
    have hgiven : f.comment = some c := (Option.filter_eq_some_iff.1 hc).1
    exact hend (hf c (by simp [texts, hgiven]))
  have hindented {a : String} (ha : '\n' ∉ a.toList) : '\n' ∉ ("    " ++ a).toList := by
    rw [String.toList_append, List.mem_append, not_or]
    exact ⟨by decide, ha⟩
  intro line hline
  rw [List.mem_append, List.mem_append] at hline
  rcases hline with (hline | hline) | hline
  · rcases List.mem_cons.1 hline with rfl | hline
    · exact List.not_mem_nil
    simp only [annotationLines, commentLines, List.mem_append, List.mem_map, Option.mem_toList,
      List.mem_singleton] at hline
    rcases hline with (⟨c, hc, rfl⟩ | hline | hline) | rfl
    · have hc' := hcomment hc
      simp [hc']
    · split at hline
      · obtain ⟨a, ha, rfl⟩ := List.mem_map.1 hline
        exact hindented (hvalidation ha)
      · cases hline
    · split at hline
      · obtain ⟨a, ha, rfl⟩ := List.mem_map.1 hline
        exact hindented (hcolumn (Option.mem_toList.1 ha))
      · cases hline
    · simp [attributeLine, hname, htype]
  · unfold accessorLines getterLine setterLine getterName setterName at hline
    generalize Name.upperFirst f.name = capitalized at hline hcapitalized
    generalize f.name = name at hline hname
    generalize f.type = type at hline htype
    simp only [List.mem_cons, List.not_mem_nil, or_false] at hline
    rcases hline with rfl | rfl | rfl | rfl | rfl | rfl | rfl | rfl
    all_goals simp [hname, htype, hcapitalized]
  · have hsame := List.mem_singleton.1 hline
    unfold shownLine at hsame
    generalize f.name = name at hname hsame
    subst hsame
    simp [hname]

namespace ModelSheet

open Template.Bundled

/-- No text that a model is printed with ends a line. -/
structure Unbroken (s : ModelSheet) : Prop where
  own : ∀ t ∈ [s.package, s.className, s.tableName.written], '\n' ∉ t.toList
  fields : ∀ f ∈ s.fields, ∀ t ∈ f.texts, Text.Lacks ['\n'] t

theorem unbroken_ofBlueprint {b : Blueprint} (hb : ∀ t ∈ b.texts, Text.Lacks ['\n'] t) :
    (ofBlueprint b).Unbroken := by
  have hmarks : ['\n'] ⊆ layoutMarks := by decide
  have hvalue : ∀ e ∈ (ofBlueprint b).bindings, '\n' ∉ e.2.written.toList := fun e he =>
    (ModelSheet.lacks hmarks hb e he).written (by decide) _ List.mem_cons_self
  refine ⟨fun t ht => ?_, b.lacks_fields hb⟩
  simp only [List.mem_cons, List.not_mem_nil, or_false] at ht
  rcases ht with rfl | rfl | rfl
  · exact hvalue ("package_name", .text (ofBlueprint b).package) (.tail _ List.mem_cons_self)
  · exact hvalue ("class_name", .text (ofBlueprint b).className) List.mem_cons_self
  · exact hvalue ("table_name", (ofBlueprint b).tableName) (.tail _ (.tail _ List.mem_cons_self))

variable {s : ModelSheet}

/-- The lines of a model are those of its text, if nothing that it is printed with ends a line. -/
theorem closed_lines {m : ModelFrame} (hm : Framed s.persistence m) (hs : s.Unbroken) :
    ∀ line ∈ m.lines s, '\n' ∉ line.toList := by
  have hmarks : ['\n'] ⊆ layoutMarks := by decide
  have hfixed {ls : List Shape} (hls : ls ⊆ m.shapes) :
      ∀ line ∈ ls.map (Shape.line s.bindings), '\n' ∉ line.toList := by
    intro line hline
    obtain ⟨shape, hshape, rfl⟩ := List.mem_map.1 hline
    rw [Shape.line, String.toList_ofList]
    exact Shape.not_mem_chars (hm.closed shape (hls hshape)) fun n hn =>
      hs.own _ (written_of_name (hm.names shape (hls hshape) n hn))
  have hfield {f : Field} (hf : f ∈ s.fields) :=
    f.closed_lines (hs.fields f hf) s.persistence s.validation
  have hin : ∀ ls ∈ [m.opening, m.head, m.methods, m.equality, m.closing, m.last],
      ls ⊆ m.shapes := by
    intro ls hls line hline
    simp only [List.mem_cons, List.not_mem_nil, or_false] at hls
    rcases hls with rfl | rfl | rfl | rfl | rfl | rfl
    all_goals simp [ModelFrame.shapes, hline]
  intro line hline
  simp only [ModelFrame.lines, List.mem_append] at hline
  rcases hline with ((((hline | hline) | hline) | hline) | hline) | hline
  · exact hfixed (hin _ (by simp)) line hline
  · obtain ⟨q, hq, rfl⟩ := List.mem_map.1 hline
    have hq' := Field.lacks_imports hmarks hq _ List.mem_cons_self
    simp [hq']
  · exact hfixed (hin _ (by simp)) line hline
  · obtain ⟨f, hf, hline⟩ := List.mem_flatMap.1 hline
    exact hfield hf line (List.mem_append_left _ (List.mem_append_left _ hline))
  · split at hline
    · cases hline
    · simp only [List.mem_append] at hline
      rcases hline with (((hline | hline) | hline) | hline) | hline
      · exact hfixed (hin _ (by simp)) line hline
      · obtain ⟨f, hf, hline⟩ := List.mem_flatMap.1 hline
        exact hfield hf line (List.mem_append_left _ (List.mem_append_right _ hline))
      · exact hfixed (hin _ (by simp)) line hline
      · obtain ⟨f, hf, rfl⟩ := List.mem_map.1 hline
        exact hfield hf _ (List.mem_append_right _ List.mem_cons_self)
      · exact hfixed (hin _ (by simp)) line hline
  · exact hfixed (hin _ (by simp)) line hline

/-- The lines of a rendered model. -/
theorem pieces_of_render {tree : Tree} {x : String} (hs : s.Unbroken)
    (h : Store.bundled.render tree "model.java.j2" s.bindings = .ok x) :
    ∃ m, Framed s.persistence m ∧ pieces '\n' x = m.lines s ++ [""] := by
  obtain ⟨inks, hprint, rfl⟩ := print_of_render rfl h
  have htext : (Ink.text inks).toList = linesText (s.frame.lines s) := by
    rw [Ink.text, String.toList_ofList, yields_lines s inks hprint]
  exact ⟨_, s.framed_frame, pieces_linesText htext (closed_lines s.framed_frame hs)⟩

end ModelSheet

end Groundwork
