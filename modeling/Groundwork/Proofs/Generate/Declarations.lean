import Groundwork.Proofs.Generate.ModelText

/-!
# What a model declares

An attribute is declared in a line that begins with `private`, a method in one that begins with
`public`, both indented once. The lines of a model that begin so are those for its identifier, for
its fields in their order, and for what every object has; nothing else in a model begins so,
whatever the texts of its fields are.
-/

namespace Groundwork

open Template Text

namespace Text

variable {w front rest : List Char} {ls : List String} {word line : String}

/-- The lines that begin with a word. -/
def beginning (word : String) (ls : List String) : List String :=
  ls.filter (word.toList.isPrefixOf ·.toList)

@[simp] theorem beginning_nil (word : String) : beginning word [] = [] := rfl

@[simp] theorem beginning_append (word : String) (ls more : List String) :
    beginning word (ls ++ more) = beginning word ls ++ beginning word more :=
  List.filter_append ..

theorem beginning_cons_of_pos (h : word.toList <+: line.toList) :
    beginning word (line :: ls) = line :: beginning word ls :=
  List.filter_cons_of_pos (List.isPrefixOf_iff_prefix.2 h)

theorem beginning_cons_of_neg (h : ¬ word.toList <+: line.toList) :
    beginning word (line :: ls) = beginning word ls :=
  List.filter_cons_of_neg fun hin => h (List.isPrefixOf_iff_prefix.1 hin)

theorem beginning_eq_nil (h : ∀ line ∈ ls, ¬ word.toList <+: line.toList) :
    beginning word ls = [] :=
  List.filter_eq_nil_iff.2 fun line hline hin =>
    h line hline (List.isPrefixOf_iff_prefix.1 hin)

theorem beginning_flatMap {α : Type} {as : List α} {g k : α → List String}
    (h : ∀ a ∈ as, beginning word (g a) = k a) :
    beginning word (as.flatMap g) = as.flatMap k := by
  rw [beginning, List.filter_flatMap]
  exact List.flatMap_congr h

/-- What only reads lines that begin with a word reads these. -/
theorem filterMap_beginning {α : Type} {w : String} {f : String → Option α}
    (hf : ∀ line, (f line).isSome → w.toList <+: line.toList) (ls : List String) :
    (beginning w ls).filterMap f = ls.filterMap f := by
  rw [beginning, List.filterMap_filter]
  congr 1
  funext line
  split
  · rfl
  · rename_i hno
    symm
    rw [← Option.not_isSome_iff_eq_none]
    exact fun hsome => hno (List.isPrefixOf_iff_prefix.2 (hf line hsome))

/-- A line does not begin with a word that it leaves at once. -/
theorem not_prefix_of_apart (h : ¬ w <+: front) (h' : ¬ front <+: w) : ¬ w <+: front ++ rest := by
  intro hw
  rcases List.prefix_or_prefix_of_prefix hw (List.prefix_append front rest) with hin | hin
  · exact h hin
  · exact h' hin

/-- The line begins neither like an attribute nor like a method. -/
structure Aside (line : String) : Prop where
  no_attribute : ¬ "    private ".toList <+: line.toList
  no_method : ¬ "    public ".toList <+: line.toList

instance (line : String) : Decidable (Aside line) :=
  decidable_of_iff (_ ∧ _) ⟨fun ⟨h₁, h₂⟩ => ⟨h₁, h₂⟩, fun h => ⟨h.no_attribute, h.no_method⟩⟩

/-- The beginning of a line keeps it apart, whatever follows. -/
theorem Aside.of_front (front rest : List Char) (hline : line.toList = front ++ rest)
    (hfront : ∀ w ∈ ["    private ".toList, "    public ".toList], ¬ w <+: front ∧ ¬ front <+: w) :
    Aside line := by
  have hno (w : List Char) (hw : w ∈ ["    private ".toList, "    public ".toList]) :
      ¬ w <+: line.toList := by
    rw [hline]
    exact not_prefix_of_apart (hfront w hw).1 (hfront w hw).2
  exact ⟨hno _ List.mem_cons_self, hno _ (.tail _ List.mem_cons_self)⟩

theorem Aside.beginning_eq_nil (h : ∀ line ∈ ls, Aside line) :
    beginning "    private " ls = [] ∧ beginning "    public " ls = [] := by
  constructor
  · exact Text.beginning_eq_nil fun line hline => (h line hline).no_attribute
  · exact Text.beginning_eq_nil fun line hline => (h line hline).no_method

end Text

namespace Field

variable {f : Field}

theorem aside_of_comment {line : String} (h : line ∈ f.commentLines) : Aside line := by
  obtain ⟨c, -, rfl⟩ := List.mem_map.1 h
  refine .of_front "    /** ".toList (c.toList ++ " */".toList) ?_ (by decide)
  simp only [String.toList_append, List.append_assoc]

theorem aside_of_annotation {persistence validation : Bool} {line : String}
    (h : line ∈ f.annotationLines persistence validation) : Aside line := by
  have hannotation {a : String} (ha : ∃ rest, a.toList = '@' :: rest) : Aside ("    " ++ a) := by
    obtain ⟨rest, hrest⟩ := ha
    refine .of_front "    @".toList rest ?_ (by decide)
    rw [String.toList_append, hrest]
    rfl
  rcases List.mem_append.1 h with h | h
  · split at h
    · obtain ⟨a, ha, rfl⟩ := List.mem_map.1 h
      exact hannotation (annotation_of_validation ha)
    · cases h
  · split at h
    · obtain ⟨a, ha, rfl⟩ := List.mem_map.1 h
      exact hannotation (annotation_of_column (Option.mem_toList.1 ha))
    · cases h

theorem aside_shownLine (f : Field) : Aside f.shownLine := by
  unfold shownLine
  generalize f.name = name
  refine .of_front "                \", ".toList
    (name.toList ++ ("=\" + ".toList ++ (name.toList ++ " +".toList))) ?_ (by decide)
  simp only [String.toList_append, List.append_assoc]

/-- Where a field is declared there is one attribute and no method. -/
theorem beginning_lines (f : Field) (persistence validation : Bool) :
    beginning "    private " (f.lines persistence validation) = [f.attributeLine] ∧
      beginning "    public " (f.lines persistence validation) = [] := by
  have haside : ∀ line ∈ "" :: (f.commentLines ++ f.annotationLines persistence validation),
      Aside line := by
    intro line hline
    rcases List.mem_cons.1 hline with rfl | hline
    · decide
    · exact (List.mem_append.1 hline).elim aside_of_comment aside_of_annotation
  have hchars : f.attributeLine.toList
      = "    private ".toList ++ (f.type ++ " " ++ f.name ++ ";").toList := by
    unfold attributeLine
    simp only [String.toList_append, List.append_assoc]
  have hattribute : "    private ".toList <+: f.attributeLine.toList := by
    rw [hchars]
    exact List.prefix_append _ _
  have hmethod : ¬ "    public ".toList <+: f.attributeLine.toList := by
    rw [hchars]
    exact not_prefix_of_apart (by decide) (by decide)
  have hsplit : f.lines persistence validation
      = "" :: (f.commentLines ++ f.annotationLines persistence validation) ++ [f.attributeLine] :=
    rfl
  obtain ⟨hnone, hnone'⟩ := Aside.beginning_eq_nil haside
  constructor
  · rw [hsplit, beginning_append, hnone, beginning_cons_of_pos hattribute]
    rfl
  · rw [hsplit, beginning_append, hnone', beginning_cons_of_neg hmethod]
    rfl

theorem declares_method {line : String} (rest : String) (h : line = "    public " ++ rest) :
    "    public ".toList <+: line.toList ∧ ¬ "    private ".toList <+: line.toList := by
  rw [h, String.toList_append]
  exact ⟨List.prefix_append _ _, not_prefix_of_apart (by decide) (by decide)⟩

/-- Where a field is read and set there are two methods and no attribute. -/
theorem beginning_accessorLines (f : Field) :
    beginning "    private " f.accessorLines = [] ∧
      beginning "    public " f.accessorLines = [f.getterLine, f.setterLine] := by
  have hgetterLine : f.getterLine
      = "    public " ++ (f.type ++ " " ++ f.getterName ++ "() \x7b") := by
    unfold getterLine
    simp only [String.append_assoc]
  have hsetterLine : f.setterLine = "    public "
      ++ ("void " ++ f.setterName ++ "(" ++ f.type ++ " " ++ f.name ++ ") \x7b") := by
    unfold setterLine
    simp only [String.append_assoc]
    rfl
  obtain ⟨hgetter, hgetter'⟩ := declares_method _ hgetterLine
  obtain ⟨hsetter, hsetter'⟩ := declares_method _ hsetterLine
  have hreturn : Aside ("        return " ++ f.name ++ ";") := by
    refine .of_front "        return ".toList (f.name ++ ";").toList ?_ (by decide)
    simp only [String.toList_append, List.append_assoc]
  have hassign : Aside ("        this." ++ f.name ++ " = " ++ f.name ++ ";") := by
    refine .of_front "        this.".toList (f.name ++ " = " ++ f.name ++ ";").toList ?_ (by decide)
    simp only [String.toList_append, List.append_assoc]
  have hclose : Aside "    \x7d" := by decide
  have hempty : Aside "" := by decide
  unfold accessorLines
  constructor
  · rw [beginning_cons_of_neg hempty.no_attribute, beginning_cons_of_neg hgetter',
      beginning_cons_of_neg hreturn.no_attribute, beginning_cons_of_neg hclose.no_attribute,
      beginning_cons_of_neg hempty.no_attribute, beginning_cons_of_neg hsetter',
      beginning_cons_of_neg hassign.no_attribute, beginning_cons_of_neg hclose.no_attribute,
      beginning_nil]
  · rw [beginning_cons_of_neg hempty.no_method, beginning_cons_of_pos hgetter,
      beginning_cons_of_neg hreturn.no_method, beginning_cons_of_neg hclose.no_method,
      beginning_cons_of_neg hempty.no_method, beginning_cons_of_pos hsetter,
      beginning_cons_of_neg hassign.no_method, beginning_cons_of_neg hclose.no_method,
      beginning_nil]

end Field

namespace ModelFrame

open Template.Bundled

variable {m : ModelFrame} {s : ModelSheet}

theorem aside_imports (s : ModelSheet) : ∀ line ∈ (Field.imports s.fields s.persistence s.validation
    s.lombok).map ("import " ++ · ++ ";"), Aside line := by
  intro line hline
  obtain ⟨q, -, rfl⟩ := List.mem_map.1 hline
  refine .of_front "import ".toList (q ++ ";").toList ?_ (by decide)
  simp only [String.toList_append, List.append_assoc]

theorem aside_shownLines (s : ModelSheet) : ∀ line ∈ s.fields.map Field.shownLine, Aside line := by
  intro line hline
  obtain ⟨f, -, rfl⟩ := List.mem_map.1 hline
  exact f.aside_shownLine

/-- Of the lines of the frame, those that begin with a word are picked without their values. -/
theorem beginning_lines {w : String} (hbegun : ∀ line ∈ m.shapes, (line.begins? w.toList).isSome) :
    beginning w (m.lines s) = beginning w ((m.pick w).lines s) := by
  have hpick := filterMap_lines (s := s) (f := Option.guard (w.toList.isPrefixOf ·.toList))
    (fun line hline => List.isPrefixOf_iff_prefix.1 (by simpa using hline)) hbegun
  rwa [List.filterMap_eq_filter] at hpick

/-- The attributes of a model are its identifier and its fields. -/
theorem attributes_of_framed (hm : Framed s.persistence m) :
    beginning "    private " (m.lines s)
      = "    private Long id;" :: s.fields.map Field.attributeLine := by
  have hfields : beginning "    private "
      (s.fields.flatMap (Field.lines s.persistence s.validation))
      = s.fields.map Field.attributeLine := by
    rw [beginning_flatMap fun f _ => (f.beginning_lines _ _).1, List.map_eq_flatMap]
  have haccessors : beginning "    private " (s.fields.flatMap Field.accessorLines) = [] := by
    rw [beginning_flatMap fun f _ => f.beginning_accessorLines.1]
    simp
  have himports := (Aside.beginning_eq_nil (aside_imports s)).1
  have hshown := (Aside.beginning_eq_nil (aside_shownLines s)).1
  have hid : Shape.line s.bindings idShape = "    private Long id;" := by
    simp [idShape]
  have hidLine : beginning "    private " ["    private Long id;"] = ["    private Long id;"] := by
    decide
  rw [beginning_lines fun line hline => hm.begun line hline _ (by decide), hm.attributes]
  unfold lines
  split
  · simp only [List.map_nil, List.map_cons, hid, beginning_append, himports, hidLine,
      hfields, List.append_nil, List.nil_append, List.singleton_append]
  · simp only [List.map_nil, List.map_cons, hid, beginning_append, himports, hidLine,
      hfields, haccessors, hshown, List.append_nil, List.nil_append, List.singleton_append]

/-- The methods that a model has apart from those for its fields: the constructor and the methods
for its identifier in front of these, and those of every object behind them. -/
def ownMethodLines (s : ModelSheet) : List String :=
  ["    public " ++ s.className ++ "() \x7b", "    public Long getId() \x7b",
    "    public void setId(Long id) \x7b"]

def objectMethodLines : List String :=
  ["    public boolean equals(Object o) \x7b", "    public int hashCode() \x7b",
    "    public String toString() \x7b"]

/-- The methods of a model. -/
theorem methods_of_framed (hm : Framed s.persistence m) :
    beginning "    public " (m.lines s) = if s.lombok then []
      else ownMethodLines s ++ s.fields.flatMap (fun f => [f.getterLine, f.setterLine])
        ++ objectMethodLines := by
  have hfields : beginning "    public " (s.fields.flatMap (Field.lines s.persistence s.validation))
      = [] := by
    rw [beginning_flatMap fun f _ => (f.beginning_lines _ _).2]
    simp
  have haccessors : beginning "    public " (s.fields.flatMap Field.accessorLines)
      = s.fields.flatMap fun f => [f.getterLine, f.setterLine] :=
    beginning_flatMap fun f _ => f.beginning_accessorLines.2
  have himports := (Aside.beginning_eq_nil (aside_imports s)).2
  have hshown := (Aside.beginning_eq_nil (aside_shownLines s)).2
  have hown : ownMethods.map (Shape.line s.bindings) = ownMethodLines s := by
    have hwritten : s.bindings.written "class_name" = s.className := rfl
    simp [ownMethods, ownMethodLines, constructorShape, hwritten, String.append_assoc]
  have hobject : objectMethods.map (Shape.line s.bindings) = objectMethodLines := by
    simp [objectMethods, objectMethodLines]
  have hownLines : beginning "    public " (ownMethodLines s) = ownMethodLines s := by
    have hconstructor := (Field.declares_method (s.className ++ "() \x7b")
      (String.append_assoc ..)).1
    rw [ownMethodLines, beginning_cons_of_pos hconstructor]
    rfl
  have hobjectLines : beginning "    public " objectMethodLines = objectMethodLines := by
    decide
  rw [beginning_lines fun line hline => hm.begun line hline _ (by decide), hm.methods]
  unfold lines
  split
  · simp only [List.map_nil, beginning_append, beginning_nil, himports, hfields, List.append_nil]
  · simp only [List.map_nil, hown, hobject, beginning_append, himports, hfields,
      hownLines, haccessors, hobjectLines, hshown, List.append_nil, List.nil_append]

end ModelFrame

end Groundwork
