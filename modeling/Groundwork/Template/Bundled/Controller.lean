import Groundwork.Template.Basic

/-!
# The REST controller

Reading end points always, writing end points when asked for.
-/

namespace Groundwork.Template.Bundled

/-- The class of a controller. -/
def controller : Template :=
  .text "package " <| .put "package_name" <| .text ";\n" <|
  .text "\n" <|
  .text "import " <| .put "model_package" <| .text "." <| .put "model_name" <| .text ";\n" <|
  .text "import " <| .put "service_package" <| .text "." <| .put "service_name" <| .text ";\n" <|
  .branch (.name "include_swagger")
    (.text "import io.swagger.v3.oas.annotations.Operation;\n" <|
     .text "import io.swagger.v3.oas.annotations.tags.Tag;\n" <|
     .done)
    .done <|
  .branch (.name "include_validation")
    (.text "import jakarta.validation.Valid;\n" <|
     .done)
    .done <|
  .text "import org.springframework.http.HttpStatus;\n" <|
  .text "import org.springframework.http.ResponseEntity;\n" <|
  .text "import org.springframework.web.bind.annotation.*;\n" <|
  .text "\n" <|
  .text "import java.util.List;\n" <|
  .text "\n" <|
  .text "/**\n" <|
  .text " * REST endpoints for " <| .put "model_name" <| .text ".\n" <|
  .text " */\n" <|
  .text "@RestController\n" <|
  .text "@RequestMapping(\"" <| .put "base_path" <| .text "/" <| .put "resource_path" <|
    .text "\")\n" <|
  .branch (.name "include_swagger")
    (.text "@Tag(name = \"" <| .put "model_name" <| .text "\", description = \"" <|
       .put "model_name" <| .text " management\")\n" <|
     .done)
    .done <|
  .text "public class " <| .put "controller_name" <| .text " \x7b\n" <|
  .text "\n" <|
  .text "    private final " <| .put "service_name" <| .text " " <| .put "service_instance_name" <|
    .text ";\n" <|
  .text "\n" <|
  .text "    public " <| .put "controller_name" <| .text "(" <| .put "service_name" <| .text " " <|
    .put "service_instance_name" <| .text ") \x7b\n" <|
  .text "        this." <| .put "service_instance_name" <| .text " = " <|
    .put "service_instance_name" <| .text ";\n" <|
  .text "    \x7d\n" <|
  .text "\n" <|
  .text "    @GetMapping\n" <|
  .branch (.name "include_swagger")
    (.text "    @Operation(summary = \"List all " <| .put "resource_path" <| .text "\")\n" <|
     .done)
    .done <|
  .text "    public ResponseEntity<List<" <| .put "model_name" <| .text ">> findAll() \x7b\n" <|
  .text "        return ResponseEntity.ok(" <| .put "service_instance_name" <|
    .text ".findAll());\n" <|
  .text "    \x7d\n" <|
  .text "\n" <|
  .text "    @GetMapping(\"/\x7bid\x7d\")\n" <|
  .branch (.name "include_swagger")
    (.text "    @Operation(summary = \"Find a " <| .put "model_instance_name" <|
       .text " by id\")\n" <|
     .done)
    .done <|
  .text "    public ResponseEntity<" <| .put "model_name" <|
    .text "> findById(@PathVariable Long id) \x7b\n" <|
  .text "        return " <| .put "service_instance_name" <| .text ".findById(id)\n" <|
  .text "                .map(ResponseEntity::ok)\n" <|
  .text "                .orElse(ResponseEntity.notFound().build());\n" <|
  .text "    \x7d\n" <|
  .branch (.name "include_crud")
    (.text "\n" <|
     .text "    @PostMapping\n" <|
     .branch (.name "include_swagger")
       (.text "    @Operation(summary = \"Create a " <| .put "model_instance_name" <| .text "\")\n" <|
        .done)
       .done <|
     .text "    public ResponseEntity<" <| .put "model_name" <| .text "> create(" <|
     .branch (.name "include_validation")
       (.text "@Valid " <|
        .done)
       .done <|
     .text "@RequestBody " <| .put "model_name" <| .text " " <| .put "model_instance_name" <|
       .text ") \x7b\n" <|
     .text "        " <| .put "model_name" <| .text " saved = " <| .put "service_instance_name" <|
       .text ".save(" <| .put "model_instance_name" <| .text ");\n" <|
     .text "        return ResponseEntity.status(HttpStatus.CREATED).body(saved);\n" <|
     .text "    \x7d\n" <|
     .text "\n" <|
     .text "    @PutMapping(\"/\x7bid\x7d\")\n" <|
     .branch (.name "include_swagger")
       (.text "    @Operation(summary = \"Update a " <| .put "model_instance_name" <| .text "\")\n" <|
        .done)
       .done <|
     .text "    public ResponseEntity<" <| .put "model_name" <|
       .text "> update(@PathVariable Long id, " <|
     .branch (.name "include_validation")
       (.text "@Valid " <|
        .done)
       .done <|
     .text "@RequestBody " <| .put "model_name" <| .text " " <| .put "model_instance_name" <|
       .text ") \x7b\n" <|
     .text "        return " <| .put "service_instance_name" <| .text ".update(id, " <|
       .put "model_instance_name" <| .text ")\n" <|
     .text "                .map(ResponseEntity::ok)\n" <|
     .text "                .orElse(ResponseEntity.notFound().build());\n" <|
     .text "    \x7d\n" <|
     .text "\n" <|
     .text "    @DeleteMapping(\"/\x7bid\x7d\")\n" <|
     .branch (.name "include_swagger")
       (.text "    @Operation(summary = \"Delete a " <| .put "model_instance_name" <| .text "\")\n" <|
        .done)
       .done <|
     .text "    public ResponseEntity<Void> delete(@PathVariable Long id) \x7b\n" <|
     .text "        if (" <| .put "service_instance_name" <|
       .text ".findById(id).isEmpty()) \x7b\n" <|
     .text "            return ResponseEntity.notFound().build();\n" <|
     .text "        \x7d\n" <|
     .text "        " <| .put "service_instance_name" <| .text ".deleteById(id);\n" <|
     .text "        return ResponseEntity.noContent().build();\n" <|
     .text "    \x7d\n" <|
     .done)
    .done <|
  .text "\x7d\n" <|
  .done

end Groundwork.Template.Bundled
