import Groundwork.Dependency
import Groundwork.Sheet.Basic

/-!
# The sheet of a project
-/

namespace Groundwork

structure ProjectSheet where
  name : String
  basePackage : String
  group : Value
  artifact : String
  classPrefix : String
  bootVersion : Value
  javaVersion : String
  dependencyNames : List String
  database : Database
  packaging : Packaging
  docker : Bool
  ignoredFiles : Bool
  readme : Bool

namespace ProjectSheet

def usualPackage : String := "com.example"

def ofBlueprint (b : Blueprint) : Except Failure ProjectSheet := do
  let name := b.title
  let artifact := Name.slug name
  let classPrefix := Name.pascal name
  if artifact = "" || classPrefix = "" then throw (.input (.noWordInName name))
  let basePackage := if b.package = "" then usualPackage else b.package
  let database := Database.ofValue (b.option "database" .null)
  let asked := b.option "dependencies" .null
  let dependencyNames ←
    if asked.holds then Value.needed (Dependency.normalizeValue asked)
    else pure (Dependency.normalize (Dependency.usual database))
  return {
    name := name
    basePackage := basePackage
    group := b.option "group_id" (.text basePackage)
    artifact := artifact
    classPrefix := classPrefix
    bootVersion := b.option "spring_boot_version" (.text "3.2.0")
    javaVersion := (b.option "java_version" (.text "17")).written
    dependencyNames := dependencyNames
    database := database
    packaging := .ofValue (b.option "packaging" .null)
    docker := b.switched "include_docker" true
    ignoredFiles := b.switched "include_gitignore" true
    readme := b.switched "include_readme" true }

def mainClass (s : ProjectSheet) : String :=
  s.classPrefix ++ "Application"

def resolution (s : ProjectSheet) : Dependency.Resolution :=
  Dependency.resolve s.dependencyNames s.database

def bindings (s : ProjectSheet) : Bindings :=
  [("project_name", .text s.name),
    ("base_package", .text s.basePackage),
    ("group_id", s.group),
    ("artifact_id", .text s.artifact),
    ("main_class_name", .text s.mainClass),
    ("spring_boot_version", s.bootVersion),
    ("java_version", .text s.javaVersion),
    ("dependency_names", .list (s.dependencyNames.map .text)),
    ("dependencies", .list (s.resolution.dependencies.map Dependency.entry)),
    ("database", .text s.database.name),
    ("packaging", .text s.packaging.name),
    ("include_docker", .bool s.docker),
    ("include_gitignore", .bool s.ignoredFiles),
    ("include_readme", .bool s.readme),
    ("uses_jpa", .bool (s.dependencyNames.contains "jpa"))] ++ s.database.bindings

end ProjectSheet

end Groundwork
