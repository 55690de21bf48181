import Groundwork.Proofs.Generate.Declarations
import Groundwork.Proofs.Generate.Unfailing

/-!
# The sections of a model

A model is printed in sections: what is in front of the identifier, the identifier, the fields in
their order, and without Lombok the methods for the identifier, those for the fields in the same
order, and those of every object. Which lines a section has depends on the switches and on what is
left out of a field, and on nothing else.
-/

namespace Groundwork

open Template Text

namespace ModelSheet

open Template.Bundled

variable {s : ModelSheet}

/-- The lines in front of the identifier. -/
def headLines (s : ModelSheet) : List String :=
  ["package " ++ s.package ++ ";", ""]
    ++ (Field.imports s.fields s.persistence s.validation s.lombok).map ("import " ++ · ++ ";")
    ++ ["", "/**", " * " ++ s.className ++ " entity.", " */"]
    ++ (if s.persistence then ["@Entity", "@Table(name = \"" ++ s.tableName.written ++ "\")"]
      else [])
    ++ (if s.lombok then ["@Data", "@NoArgsConstructor", "@AllArgsConstructor"] else [])
    ++ ["public class " ++ s.className ++ " \x7b", ""]
    ++ (if s.persistence then
        ["    @Id", "    @GeneratedValue(strategy = GenerationType.IDENTITY)"]
      else [])

/-- The constructor, and the methods for the identifier. -/
def ownLines (s : ModelSheet) : List String :=
  ["", "    public " ++ s.className ++ "() \x7b", "    \x7d",
    "", "    public Long getId() \x7b", "        return id;", "    \x7d",
    "", "    public void setId(Long id) \x7b", "        this.id = id;", "    \x7d"]

/-- The methods of every object. -/
def objectLines (s : ModelSheet) : List String :=
  ["", "    @Override", "    public boolean equals(Object o) \x7b",
    "        if (this == o) return true;",
    "        if (o == null || getClass() != o.getClass()) return false;",
    "        " ++ s.className ++ " that = (" ++ s.className ++ ") o;",
    "        return Objects.equals(id, that.id);", "    \x7d",
    "", "    @Override", "    public int hashCode() \x7b", "        return Objects.hash(id);",
    "    \x7d",
    "", "    @Override", "    public String toString() \x7b",
    "        return \"" ++ s.className ++ "\x7b\" +", "                \"id=\" + id +"]
    ++ s.fields.map Field.shownLine ++ ["                \"\x7d\";", "    \x7d"]

/-- The lines of a model, section by section. -/
def lines (s : ModelSheet) : List String :=
  s.headLines ++ "    private Long id;" :: s.fields.flatMap (Field.lines s.persistence s.validation)
    ++ (if s.lombok then []
      else s.ownLines ++ s.fields.flatMap Field.accessorLines ++ s.objectLines)
    ++ ["\x7d"]

theorem lines_frame (s : ModelSheet) : s.frame.lines s = s.lines := by
  have hclass : s.bindings.written "class_name" = s.className := rfl
  have hpackage : s.bindings.written "package_name" = s.package := rfl
  have htable : s.bindings.written "table_name" = s.tableName.written := rfl
  unfold frame modelFrame ModelFrame.lines lines headLines ownLines objectLines
  cases s.persistence <;> cases s.lombok <;>
    simp [hclass, hpackage, htable, tableShape, idShape, constructorShape,
      String.append_assoc]

theorem text_of_render {x : String} {tree : Tree}
    (h : Store.bundled.render tree "model.java.j2" s.bindings = .ok x) :
    x.toList = linesText s.lines := by
  obtain ⟨inks, hprint, rfl⟩ := print_of_render rfl h
  rw [Ink.text, String.toList_ofList, yields_lines s inks hprint, lines_frame]

theorem attributes_lines (s : ModelSheet) :
    beginning "    private " s.lines
      = "    private Long id;" :: s.fields.map Field.attributeLine := by
  rw [← lines_frame, ModelFrame.attributes_of_framed s.framed_frame]

end ModelSheet

end Groundwork
