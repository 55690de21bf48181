import Groundwork.Template.Basic

/-!
# The service layer

A service is one class, or an interface with the class that implements it.
-/

namespace Groundwork.Template.Bundled

/-- A service without an interface of its own. -/
def service : Template :=
  .text "package " <| .put "package_name" <| .text ";\n" <|
  .text "\n" <|
  .text "import " <| .put "model_package" <| .text "." <| .put "model_name" <| .text ";\n" <|
  .text "import " <| .put "repository_package" <| .text "." <| .put "repository_name" <|
    .text ";\n" <|
  .text "import org.springframework.stereotype.Service;\n" <|
  .branch (.name "include_transactional")
    (.text "import org.springframework.transaction.annotation.Transactional;\n" <|
     .done)
    .done <|
  .branch (.name "include_validation")
    (.text "import org.springframework.validation.annotation.Validated;\n" <|
     .done)
    .done <|
  .text "\n" <|
  .text "import java.util.List;\n" <|
  .text "import java.util.Optional;\n" <|
  .text "\n" <|
  .text "/**\n" <|
  .text " * Business operations for " <| .put "model_name" <| .text ".\n" <|
  .text " */\n" <|
  .text "@Service\n" <|
  .branch (.name "include_transactional")
    (.text "@Transactional\n" <|
     .done)
    .done <|
  .branch (.name "include_validation")
    (.text "@Validated\n" <|
     .done)
    .done <|
  .text "public class " <| .put "service_name" <| .text " \x7b\n" <|
  .text "\n" <|
  .text "    private final " <| .put "repository_name" <| .text " " <|
    .put "repository_instance_name" <| .text ";\n" <|
  .text "\n" <|
  .text "    public " <| .put "service_name" <| .text "(" <| .put "repository_name" <| .text " " <|
    .put "repository_instance_name" <| .text ") \x7b\n" <|
  .text "        this." <| .put "repository_instance_name" <| .text " = " <|
    .put "repository_instance_name" <| .text ";\n" <|
  .text "    \x7d\n" <|
  .text "\n" <|
  .branch (.name "include_transactional")
    (.text "    @Transactional(readOnly = true)\n" <|
     .done)
    .done <|
  .text "    public List<" <| .put "model_name" <| .text "> findAll() \x7b\n" <|
  .text "        return " <| .put "repository_instance_name" <| .text ".findAll();\n" <|
  .text "    \x7d\n" <|
  .text "\n" <|
  .branch (.name "include_transactional")
    (.text "    @Transactional(readOnly = true)\n" <|
     .done)
    .done <|
  .text "    public Optional<" <| .put "model_name" <| .text "> findById(Long id) \x7b\n" <|
  .text "        return " <| .put "repository_instance_name" <| .text ".findById(id);\n" <|
  .text "    \x7d\n" <|
  .branch (.name "include_crud")
    (.text "\n" <|
     .text "    public " <| .put "model_name" <| .text " save(" <| .put "model_name" <| .text " " <|
       .put "model_instance_name" <| .text ") \x7b\n" <|
     .text "        return " <| .put "repository_instance_name" <| .text ".save(" <|
       .put "model_instance_name" <| .text ");\n" <|
     .text "    \x7d\n" <|
     .text "\n" <|
     .text "    public Optional<" <| .put "model_name" <| .text "> update(Long id, " <|
       .put "model_name" <| .text " " <| .put "model_instance_name" <| .text ") \x7b\n" <|
     .text "        return " <| .put "repository_instance_name" <| .text ".findById(id)\n" <|
     .text "                .map(existing -> \x7b\n" <|
     .text "                    " <| .put "model_instance_name" <| .text ".setId(id);\n" <|
     .text "                    return " <| .put "repository_instance_name" <| .text ".save(" <|
       .put "model_instance_name" <| .text ");\n" <|
     .text "                \x7d);\n" <|
     .text "    \x7d\n" <|
     .text "\n" <|
     .text "    public void deleteById(Long id) \x7b\n" <|
     .text "        " <| .put "repository_instance_name" <| .text ".deleteById(id);\n" <|
     .text "    \x7d\n" <|
     .done)
    .done <|
  .text "\x7d\n" <|
  .done

/-- The interface of a service. -/
def serviceInterface : Template :=
  .text "package " <| .put "package_name" <| .text ";\n" <|
  .text "\n" <|
  .text "import " <| .put "model_package" <| .text "." <| .put "model_name" <| .text ";\n" <|
  .text "\n" <|
  .text "import java.util.List;\n" <|
  .text "import java.util.Optional;\n" <|
  .text "\n" <|
  .text "/**\n" <|
  .text " * Business operations for " <| .put "model_name" <| .text ".\n" <|
  .text " */\n" <|
  .text "public interface " <| .put "interface_name" <| .text " \x7b\n" <|
  .text "\n" <|
  .text "    List<" <| .put "model_name" <| .text "> findAll();\n" <|
  .text "\n" <|
  .text "    Optional<" <| .put "model_name" <| .text "> findById(Long id);\n" <|
  .branch (.name "include_crud")
    (.text "\n" <|
     .text "    " <| .put "model_name" <| .text " save(" <| .put "model_name" <| .text " " <|
       .put "model_instance_name" <| .text ");\n" <|
     .text "\n" <|
     .text "    Optional<" <| .put "model_name" <| .text "> update(Long id, " <| .put "model_name" <|
       .text " " <| .put "model_instance_name" <| .text ");\n" <|
     .text "\n" <|
     .text "    void deleteById(Long id);\n" <|
     .done)
    .done <|
  .text "\x7d\n" <|
  .done

/-- The class behind a service interface. -/
def serviceImplementation : Template :=
  .text "package " <| .put "package_name" <| .text ";\n" <|
  .text "\n" <|
  .text "import " <| .put "model_package" <| .text "." <| .put "model_name" <| .text ";\n" <|
  .text "import " <| .put "repository_package" <| .text "." <| .put "repository_name" <|
    .text ";\n" <|
  .text "import org.springframework.stereotype.Service;\n" <|
  .branch (.name "include_transactional")
    (.text "import org.springframework.transaction.annotation.Transactional;\n" <|
     .done)
    .done <|
  .branch (.name "include_validation")
    (.text "import org.springframework.validation.annotation.Validated;\n" <|
     .done)
    .done <|
  .text "\n" <|
  .text "import java.util.List;\n" <|
  .text "import java.util.Optional;\n" <|
  .text "\n" <|
  .text "/**\n" <|
  .text " * Default implementation of \x7b@link " <| .put "interface_name" <| .text "\x7d.\n" <|
  .text " */\n" <|
  .text "@Service\n" <|
  .branch (.name "include_transactional")
    (.text "@Transactional\n" <|
     .done)
    .done <|
  .branch (.name "include_validation")
    (.text "@Validated\n" <|
     .done)
    .done <|
  .text "public class " <| .put "implementation_name" <| .text " implements " <|
    .put "interface_name" <| .text " \x7b\n" <|
  .text "\n" <|
  .text "    private final " <| .put "repository_name" <| .text " " <|
    .put "repository_instance_name" <| .text ";\n" <|
  .text "\n" <|
  .text "    public " <| .put "implementation_name" <| .text "(" <| .put "repository_name" <|
    .text " " <| .put "repository_instance_name" <| .text ") \x7b\n" <|
  .text "        this." <| .put "repository_instance_name" <| .text " = " <|
    .put "repository_instance_name" <| .text ";\n" <|
  .text "    \x7d\n" <|
  .text "\n" <|
  .text "    @Override\n" <|
  .branch (.name "include_transactional")
    (.text "    @Transactional(readOnly = true)\n" <|
     .done)
    .done <|
  .text "    public List<" <| .put "model_name" <| .text "> findAll() \x7b\n" <|
  .text "        return " <| .put "repository_instance_name" <| .text ".findAll();\n" <|
  .text "    \x7d\n" <|
  .text "\n" <|
  .text "    @Override\n" <|
  .branch (.name "include_transactional")
    (.text "    @Transactional(readOnly = true)\n" <|
     .done)
    .done <|
  .text "    public Optional<" <| .put "model_name" <| .text "> findById(Long id) \x7b\n" <|
  .text "        return " <| .put "repository_instance_name" <| .text ".findById(id);\n" <|
  .text "    \x7d\n" <|
  .branch (.name "include_crud")
    (.text "\n" <|
     .text "    @Override\n" <|
     .text "    public " <| .put "model_name" <| .text " save(" <| .put "model_name" <| .text " " <|
       .put "model_instance_name" <| .text ") \x7b\n" <|
     .text "        return " <| .put "repository_instance_name" <| .text ".save(" <|
       .put "model_instance_name" <| .text ");\n" <|
     .text "    \x7d\n" <|
     .text "\n" <|
     .text "    @Override\n" <|
     .text "    public Optional<" <| .put "model_name" <| .text "> update(Long id, " <|
       .put "model_name" <| .text " " <| .put "model_instance_name" <| .text ") \x7b\n" <|
     .text "        return " <| .put "repository_instance_name" <| .text ".findById(id)\n" <|
     .text "                .map(existing -> \x7b\n" <|
     .text "                    " <| .put "model_instance_name" <| .text ".setId(id);\n" <|
     .text "                    return " <| .put "repository_instance_name" <| .text ".save(" <|
       .put "model_instance_name" <| .text ");\n" <|
     .text "                \x7d);\n" <|
     .text "    \x7d\n" <|
     .text "\n" <|
     .text "    @Override\n" <|
     .text "    public void deleteById(Long id) \x7b\n" <|
     .text "        " <| .put "repository_instance_name" <| .text ".deleteById(id);\n" <|
     .text "    \x7d\n" <|
     .done)
    .done <|
  .text "\x7d\n" <|
  .done

end Groundwork.Template.Bundled
