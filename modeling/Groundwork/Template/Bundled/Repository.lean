import Groundwork.Template.Basic

/-!
# The repository

One interface for four kinds of store; the reactive kinds have their own queries and no pages.
-/

namespace Groundwork.Template.Bundled

/-- The interface of a repository. -/
def repository : Template :=
  .text "package " <| .put "package_name" <| .text ";\n" <|
  .text "\n" <|
  .text "import " <| .put "model_package" <| .text "." <| .put "model_name" <| .text ";\n" <|
  .branch (.equal (.name "repository_type") (.literal (.text "JPA")))
    (.text "import org.springframework.data.jpa.repository.JpaRepository;\n" <|
     .branch (.name "include_custom_queries")
       (.text "import org.springframework.data.jpa.repository.Query;\n" <|
        .text "import org.springframework.data.repository.query.Param;\n" <|
        .done)
       .done <|
     .done)
    (.branch (.equal (.name "repository_type") (.literal (.text "MONGODB")))
       (.text "import org.springframework.data.mongodb.repository.MongoRepository;\n" <|
        .branch (.name "include_custom_queries")
          (.text "import org.springframework.data.mongodb.repository.Query;\n" <|
           .done)
          .done <|
        .done)
       (.branch (.equal (.name "repository_type") (.literal (.text "REACTIVE_MONGO")))
          (.text "import org.springframework.data.mongodb.repository.ReactiveMongoRepository;\n" <|
           .done)
          (.branch (.equal (.name "repository_type") (.literal (.text "REACTIVE_R2DBC")))
             (.text "import org.springframework.data.repository.reactive.ReactiveCrudRepository;\n" <|
              .done)
             .done <|
           .done) <|
        .done) <|
     .done) <|
  .branch (.both (.name "include_pagination") (.negate (.name "reactive")))
    (.text "import org.springframework.data.domain.Page;\n" <|
     .text "import org.springframework.data.domain.Pageable;\n" <|
     .done)
    .done <|
  .text "import org.springframework.stereotype.Repository;\n" <|
  .branch (.name "reactive")
    (.text "import reactor.core.publisher.Flux;\n" <|
     .text "import reactor.core.publisher.Mono;\n" <|
     .done)
    (.text "\n" <|
     .text "import java.util.List;\n" <|
     .text "import java.util.Optional;\n" <|
     .done) <|
  .text "\n" <|
  .text "/**\n" <|
  .text " * Data access for " <| .put "model_name" <| .text ".\n" <|
  .text " */\n" <|
  .text "@Repository\n" <|
  .text "public interface " <| .put "repository_name" <| .text " extends " <| .put "base_type" <|
    .text "<" <| .put "model_name" <| .text ", " <| .put "id_type" <| .text "> \x7b\n" <|
  .branch (.name "include_custom_queries")
    (.branch (.name "reactive")
       (.text "\n" <|
        .text "    Flux<" <| .put "model_name" <| .text "> findAllByOrderByIdDesc();\n" <|
        .text "\n" <|
        .text "    Mono<Boolean> existsById(" <| .put "id_type" <| .text " id);\n" <|
        .done)
       (.text "\n" <|
        .text "    List<" <| .put "model_name" <| .text "> findAllByOrderByIdDesc();\n" <|
        .text "\n" <|
        .text "    Optional<" <| .put "model_name" <| .text "> findFirstByOrderByIdDesc();\n" <|
        .branch (.equal (.name "repository_type") (.literal (.text "JPA")))
          (.text "\n" <|
           .text "    @Query(\"SELECT e FROM " <| .put "model_name" <|
             .text " e WHERE e.id IN :ids\")\n" <|
           .text "    List<" <| .put "model_name" <| .text "> findAllByIds(@Param(\"ids\") List<" <|
             .put "id_type" <| .text "> ids);\n" <|
           .done)
          (.branch (.equal (.name "repository_type") (.literal (.text "MONGODB")))
             (.text "\n" <|
              .text "    @Query(\"\x7b '_id': \x7b $in: ?0 \x7d \x7d\")\n" <|
              .text "    List<" <| .put "model_name" <| .text "> findAllByIds(List<" <|
                .put "id_type" <| .text "> ids);\n" <|
              .done)
             .done <|
           .done) <|
        .done) <|
     .done)
    .done <|
  .branch (.both (.name "include_pagination") (.negate (.name "reactive")))
    (.text "\n" <|
     .text "    Page<" <| .put "model_name" <| .text "> findAll(Pageable pageable);\n" <|
     .done)
    .done <|
  .text "\x7d\n" <|
  .done

end Groundwork.Template.Bundled
