import Groundwork.Template.Basic

/-!
# The files of a new project

The build file, the entry point with its test, the settings, and the optional files.
-/

namespace Groundwork.Template.Bundled

/-- The container image. -/
def dockerfile : Template :=
  .text "FROM maven:3.9-eclipse-temurin-" <| .put "java_version" <| .text " AS build\n" <|
  .text "WORKDIR /app\n" <|
  .text "COPY pom.xml .\n" <|
  .text "RUN mvn -q dependency:go-offline\n" <|
  .text "COPY src ./src\n" <|
  .text "RUN mvn -q package -DskipTests\n" <|
  .text "\n" <|
  .text "FROM eclipse-temurin:" <| .put "java_version" <| .text "-jre\n" <|
  .text "WORKDIR /app\n" <|
  .text "COPY --from=build /app/target/" <| .put "artifact_id" <| .text "-0.0.1-SNAPSHOT." <|
    .value (.filter .lower (.name "packaging")) <| .text " app." <|
    .value (.filter .lower (.name "packaging")) <| .text "\n" <|
  .text "EXPOSE 8080\n" <|
  .text "ENTRYPOINT [\"java\", \"-jar\", \"app." <| .value (.filter .lower (.name "packaging")) <|
    .text "\"]\n" <|
  .done

/-- The introduction. -/
def readme : Template :=
  .text "# " <| .put "project_name" <| .text "\n" <|
  .text "\n" <|
  .text "Spring Boot " <| .put "spring_boot_version" <| .text " application (Java " <|
    .put "java_version" <| .text ").\n" <|
  .text "\n" <|
  .text "## Stack\n" <|
  .text "\n" <|
  .text "- Database: " <| .put "database" <| .text "\n" <|
  .text "- Packaging: " <| .put "packaging" <| .text "\n" <|
  .text "- Dependencies: " <| .value (.joined (.name "dependency_names") (.literal (.text ", "))) <|
    .text "\n" <|
  .text "\n" <|
  .text "## Running\n" <|
  .text "\n" <|
  .text "```bash\n" <|
  .text "mvn spring-boot:run\n" <|
  .text "```\n" <|
  .text "\n" <|
  .text "## Building\n" <|
  .text "\n" <|
  .text "```bash\n" <|
  .text "mvn clean package\n" <|
  .text "java -jar target/" <| .put "artifact_id" <| .text "-0.0.1-SNAPSHOT." <|
    .value (.filter .lower (.name "packaging")) <| .text "\n" <|
  .text "```\n" <|
  .branch (.name "include_docker")
    (.text "\n" <|
     .text "## Docker\n" <|
     .text "\n" <|
     .text "```bash\n" <|
     .text "docker build -t " <| .put "artifact_id" <| .text " .\n" <|
     .text "docker run -p 8080:8080 " <| .put "artifact_id" <| .text "\n" <|
     .text "```\n" <|
     .done)
    .done <|
  .done

/-- The settings of the application. -/
def applicationProperties : Template :=
  .text "spring.application.name=" <| .put "artifact_id" <| .text "\n" <|
  .text "server.port=8080\n" <|
  .text "\n" <|
  .branch (.equal (.name "database") (.literal (.text "MONGODB")))
    (.text "# MongoDB\n" <|
     .text "spring.data.mongodb.uri=" <| .put "mongodb_uri" <| .text "\n" <|
     .done)
    (.text "# Datasource\n" <|
     .text "spring.datasource.url=" <| .put "database_url" <| .text "\n" <|
     .text "spring.datasource.driver-class-name=" <| .put "database_driver" <| .text "\n" <|
     .text "spring.datasource.username=" <| .put "database_username" <| .text "\n" <|
     .text "spring.datasource.password=" <| .put "database_password" <| .text "\n" <|
     .branch (.name "uses_jpa")
       (.text "\n" <|
        .text "# JPA\n" <|
        .text "spring.jpa.database-platform=" <| .put "hibernate_dialect" <| .text "\n" <|
        .text "spring.jpa.hibernate.ddl-auto=update\n" <|
        .text "spring.jpa.show-sql=true\n" <|
        .done)
       .done <|
     .branch (.equal (.name "database") (.literal (.text "H2")))
       (.text "\n" <|
        .text "# H2 console\n" <|
        .text "spring.h2.console.enabled=true\n" <|
        .text "spring.h2.console.path=/h2-console\n" <|
        .done)
       .done <|
     .done) <|
  .done

/-- The files that version control leaves out. -/
def ignoredFiles : Template :=
  .text "target/\n" <|
  .text "!.mvn/wrapper/maven-wrapper.jar\n" <|
  .text "!**/src/main/**/target/\n" <|
  .text "!**/src/test/**/target/\n" <|
  .text "\n" <|
  .text "### IntelliJ IDEA ###\n" <|
  .text ".idea/\n" <|
  .text "*.iws\n" <|
  .text "*.iml\n" <|
  .text "*.ipr\n" <|
  .text "\n" <|
  .text "### Eclipse ###\n" <|
  .text ".apt_generated\n" <|
  .text ".classpath\n" <|
  .text ".factorypath\n" <|
  .text ".project\n" <|
  .text ".settings\n" <|
  .text ".springBeans\n" <|
  .text ".sts4-cache\n" <|
  .text "\n" <|
  .text "### VS Code ###\n" <|
  .text ".vscode/\n" <|
  .text "\n" <|
  .text "### OS ###\n" <|
  .text ".DS_Store\n" <|
  .text "Thumbs.db\n" <|
  .text "\n" <|
  .text "*.log\n" <|
  .done

/-- The entry point. -/
def mainClass : Template :=
  .text "package " <| .put "base_package" <| .text ";\n" <|
  .text "\n" <|
  .text "import org.springframework.boot.SpringApplication;\n" <|
  .text "import org.springframework.boot.autoconfigure.SpringBootApplication;\n" <|
  .branch (.equal (.name "packaging") (.literal (.text "WAR")))
    (.text "import org.springframework.boot.builder.SpringApplicationBuilder;\n" <|
     .text "import org.springframework.boot.web.servlet.support.SpringBootServletInitializer;\n" <|
     .done)
    .done <|
  .text "\n" <|
  .text "@SpringBootApplication\n" <|
  .text "public class " <| .put "main_class_name" <|
  .branch (.equal (.name "packaging") (.literal (.text "WAR")))
    (.text " extends SpringBootServletInitializer" <|
     .done)
    .done <|
  .text " \x7b\n" <|
  .text "\n" <|
  .text "    public static void main(String[] args) \x7b\n" <|
  .text "        SpringApplication.run(" <| .put "main_class_name" <| .text ".class, args);\n" <|
  .text "    \x7d\n" <|
  .branch (.equal (.name "packaging") (.literal (.text "WAR")))
    (.text "\n" <|
     .text "    @Override\n" <|
     .text "    protected SpringApplicationBuilder configure(SpringApplicationBuilder application) \x7b\n" <|
     .text "        return application.sources(" <| .put "main_class_name" <| .text ".class);\n" <|
     .text "    \x7d\n" <|
     .done)
    .done <|
  .text "\x7d\n" <|
  .done

/-- The build file. -/
def buildFile : Template :=
  .text "<?xml version=\"1.0\" encoding=\"UTF-8\"?>\n" <|
  .text "<project xmlns=\"http://maven.apache.org/POM/4.0.0\" xmlns:xsi=\"http://www.w3.org/2001/XMLSchema-instance\"\n" <|
  .text "         xsi:schemaLocation=\"http://maven.apache.org/POM/4.0.0 https://maven.apache.org/xsd/maven-4.0.0.xsd\">\n" <|
  .text "    <modelVersion>4.0.0</modelVersion>\n" <|
  .text "\n" <|
  .text "    <parent>\n" <|
  .text "        <groupId>org.springframework.boot</groupId>\n" <|
  .text "        <artifactId>spring-boot-starter-parent</artifactId>\n" <|
  .text "        <version>" <| .put "spring_boot_version" <| .text "</version>\n" <|
  .text "        <relativePath/>\n" <|
  .text "    </parent>\n" <|
  .text "\n" <|
  .text "    <groupId>" <| .put "group_id" <| .text "</groupId>\n" <|
  .text "    <artifactId>" <| .put "artifact_id" <| .text "</artifactId>\n" <|
  .text "    <version>0.0.1-SNAPSHOT</version>\n" <|
  .text "    <packaging>" <| .value (.filter .lower (.name "packaging")) <|
    .text "</packaging>\n" <|
  .text "    <name>" <| .put "project_name" <| .text "</name>\n" <|
  .text "    <description>" <| .put "project_name" <|
    .text " Spring Boot application</description>\n" <|
  .text "\n" <|
  .text "    <properties>\n" <|
  .text "        <java.version>" <| .put "java_version" <| .text "</java.version>\n" <|
  .text "    </properties>\n" <|
  .text "\n" <|
  .text "    <dependencies>\n" <|
  .loop "dependency" (.name "dependencies")
    (.text "        <dependency>\n" <|
     .text "            <groupId>" <| .putMember "dependency" "group_id" <| .text "</groupId>\n" <|
     .text "            <artifactId>" <| .putMember "dependency" "artifact_id" <|
       .text "</artifactId>\n" <|
     .branch (.member (.name "dependency") "scope")
       (.text "            <scope>" <| .putMember "dependency" "scope" <| .text "</scope>\n" <|
        .done)
       .done <|
     .branch (.member (.name "dependency") "optional")
       (.text "            <optional>true</optional>\n" <|
        .done)
       .done <|
     .text "        </dependency>\n" <|
     .done)
    .done <|
  .text "    </dependencies>\n" <|
  .text "\n" <|
  .text "    <build>\n" <|
  .text "        <plugins>\n" <|
  .text "            <plugin>\n" <|
  .text "                <groupId>org.springframework.boot</groupId>\n" <|
  .text "                <artifactId>spring-boot-maven-plugin</artifactId>\n" <|
  .branch (.within (.literal (.text "lombok")) (.name "dependency_names"))
    (.text "                <configuration>\n" <|
     .text "                    <excludes>\n" <|
     .text "                        <exclude>\n" <|
     .text "                            <groupId>org.projectlombok</groupId>\n" <|
     .text "                            <artifactId>lombok</artifactId>\n" <|
     .text "                        </exclude>\n" <|
     .text "                    </excludes>\n" <|
     .text "                </configuration>\n" <|
     .done)
    .done <|
  .text "            </plugin>\n" <|
  .text "        </plugins>\n" <|
  .text "    </build>\n" <|
  .text "</project>\n" <|
  .done

/-- The test that the application starts. -/
def contextTest : Template :=
  .text "package " <| .put "base_package" <| .text ";\n" <|
  .text "\n" <|
  .text "import org.junit.jupiter.api.Test;\n" <|
  .text "import org.springframework.boot.test.context.SpringBootTest;\n" <|
  .text "\n" <|
  .text "@SpringBootTest\n" <|
  .text "class " <| .put "main_class_name" <| .text "Tests \x7b\n" <|
  .text "\n" <|
  .text "    @Test\n" <|
  .text "    void contextLoads() \x7b\n" <|
  .text "    \x7d\n" <|
  .text "\x7d\n" <|
  .done

end Groundwork.Template.Bundled
