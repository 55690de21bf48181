import Groundwork.Template.Basic

/-!
# The model class

An entity with its fields. The parts for persistence, for Lombok and for validation are printed
only when they are switched on.
-/

namespace Groundwork.Template.Bundled

/-- The class of a model. -/
def model : Template :=
  .text "package " <| .put "package_name" <| .text ";\n" <|
  .text "\n" <|
  .loop "qualified" (.name "imports")
    (.text "import " <| .put "qualified" <| .text ";\n" <|
     .done)
    .done <|
  .text "\n" <|
  .text "/**\n" <|
  .text " * " <| .put "class_name" <| .text " entity.\n" <|
  .text " */\n" <|
  .branch (.name "include_jpa")
    (.text "@Entity\n" <|
     .text "@Table(name = \"" <| .put "table_name" <| .text "\")\n" <|
     .done)
    .done <|
  .branch (.name "use_lombok")
    (.text "@Data\n" <|
     .text "@NoArgsConstructor\n" <|
     .text "@AllArgsConstructor\n" <|
     .done)
    .done <|
  .text "public class " <| .put "class_name" <| .text " \x7b\n" <|
  .text "\n" <|
  .branch (.name "include_jpa")
    (.text "    @Id\n" <|
     .text "    @GeneratedValue(strategy = GenerationType.IDENTITY)\n" <|
     .done)
    .done <|
  .text "    private Long id;\n" <|
  .loop "field" (.name "fields")
    (.text "\n" <|
     .branch (.member (.name "field") "comment")
       (.text "    /** " <| .putMember "field" "comment" <| .text " */\n" <|
        .done)
       .done <|
     .branch (.both (.name "include_validation") (.member (.name "field") "validation_annotations"))
       (.loop "annotation" (.member (.name "field") "validation_annotations")
          (.text "    " <| .put "annotation" <| .text "\n" <|
           .done)
          .done <|
        .done)
       .done <|
     .branch (.both (.name "include_jpa") (.member (.name "field") "column_annotation"))
       (.text "    " <| .putMember "field" "column_annotation" <| .text "\n" <|
        .done)
       .done <|
     .text "    private " <| .putMember "field" "type" <| .text " " <| .putMember "field" "name" <|
       .text ";\n" <|
     .done)
    .done <|
  .branch (.negate (.name "use_lombok"))
    (.text "\n" <|
     .text "    public " <| .put "class_name" <| .text "() \x7b\n" <|
     .text "    \x7d\n" <|
     .text "\n" <|
     .text "    public Long getId() \x7b\n" <|
     .text "        return id;\n" <|
     .text "    \x7d\n" <|
     .text "\n" <|
     .text "    public void setId(Long id) \x7b\n" <|
     .text "        this.id = id;\n" <|
     .text "    \x7d\n" <|
     .loop "field" (.name "fields")
       (.text "\n" <|
        .text "    public " <| .putMember "field" "type" <| .text " get" <|
          .putMember "field" "capitalized_name" <| .text "() \x7b\n" <|
        .text "        return " <| .putMember "field" "name" <| .text ";\n" <|
        .text "    \x7d\n" <|
        .text "\n" <|
        .text "    public void set" <| .putMember "field" "capitalized_name" <| .text "(" <|
          .putMember "field" "type" <| .text " " <| .putMember "field" "name" <| .text ") \x7b\n" <|
        .text "        this." <| .putMember "field" "name" <| .text " = " <|
          .putMember "field" "name" <| .text ";\n" <|
        .text "    \x7d\n" <|
        .done)
       .done <|
     .text "\n" <|
     .text "    @Override\n" <|
     .text "    public boolean equals(Object o) \x7b\n" <|
     .text "        if (this == o) return true;\n" <|
     .text "        if (o == null || getClass() != o.getClass()) return false;\n" <|
     .text "        " <| .put "class_name" <| .text " that = (" <| .put "class_name" <|
       .text ") o;\n" <|
     .text "        return Objects.equals(id, that.id);\n" <|
     .text "    \x7d\n" <|
     .text "\n" <|
     .text "    @Override\n" <|
     .text "    public int hashCode() \x7b\n" <|
     .text "        return Objects.hash(id);\n" <|
     .text "    \x7d\n" <|
     .text "\n" <|
     .text "    @Override\n" <|
     .text "    public String toString() \x7b\n" <|
     .text "        return \"" <| .put "class_name" <| .text "\x7b\" +\n" <|
     .text "                \"id=\" + id +\n" <|
     .loop "field" (.name "fields")
       (.text "                \", " <| .putMember "field" "name" <| .text "=\" + " <|
          .putMember "field" "name" <| .text " +\n" <|
        .done)
       .done <|
     .text "                \"\x7d\";\n" <|
     .text "    \x7d\n" <|
     .done)
    .done <|
  .text "\x7d\n" <|
  .done

end Groundwork.Template.Bundled
