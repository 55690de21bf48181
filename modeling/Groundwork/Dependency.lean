import Groundwork.Stack
import Groundwork.Value.Naming

/-!
# Dependencies

Libraries are asked for by short names, in any case, with blanks around them and repeats. What is
asked for comes first, in the order of its first mention; the driver of the database comes last
unless it was asked for.
-/

namespace Groundwork

structure Dependency where
  name : String
  group : String
  artifact : String
  scope : Option String := none
  optional : Bool := false
  deriving Repr, DecidableEq

namespace Dependency

/-- The libraries that are known by a short name. -/
def catalogue : List Dependency :=
  [{ name := "web", group := "org.springframework.boot", artifact := "spring-boot-starter-web" },
    { name := "jpa", group := "org.springframework.boot"
      artifact := "spring-boot-starter-data-jpa" },
    { name := "security", group := "org.springframework.boot"
      artifact := "spring-boot-starter-security" },
    { name := "validation", group := "org.springframework.boot"
      artifact := "spring-boot-starter-validation" },
    { name := "actuator", group := "org.springframework.boot"
      artifact := "spring-boot-starter-actuator" },
    { name := "mongodb", group := "org.springframework.boot"
      artifact := "spring-boot-starter-data-mongodb" },
    { name := "test", group := "org.springframework.boot"
      artifact := "spring-boot-starter-test", scope := some "test" },
    { name := "devtools", group := "org.springframework.boot"
      artifact := "spring-boot-devtools", scope := some "runtime", optional := true },
    { name := "lombok", group := "org.projectlombok", artifact := "lombok", optional := true },
    { name := "h2", group := "com.h2database", artifact := "h2", scope := some "runtime" },
    { name := "mysql", group := "com.mysql", artifact := "mysql-connector-j"
      scope := some "runtime" },
    { name := "postgresql", group := "org.postgresql", artifact := "postgresql"
      scope := some "runtime" },
    { name := "sqlserver", group := "com.microsoft.sqlserver", artifact := "mssql-jdbc"
      scope := some "runtime" }]

def ofName? (name : String) : Option Dependency :=
  catalogue.find? (·.name == name)

/-- A dependency as templates see it. -/
def entry (d : Dependency) : Value :=
  .object
    [("name", .text d.name),
      ("group_id", .text d.group),
      ("artifact_id", .text d.artifact),
      ("scope", match d.scope with | some s => .text s | none => .null),
      ("optional", .bool d.optional)]

/-- What a project gets when nothing is asked for; without a relational database the starter for
one is left out. -/
def usual (d : Database) : List String :=
  ["web", "jpa", "test"].filter fun name => !(d = .mongodb && name == "jpa")

/-- A short name in its plain form. -/
def plainName (s : String) : String :=
  Text.lower (Text.trim s)

/-- Adds the plain names that are not blank and not yet kept, in order. -/
def keepNew (kept : List String) : List String → List String
  | [] => kept
  | s :: rest =>
    let name := plainName s
    if name = "" || kept.contains name then keepNew kept rest else keepNew (kept ++ [name]) rest

/-- Short names in plain form, without blanks and repeats. -/
def normalize (names : List String) : List String :=
  keepNew [] names

/-- The texts among values; what does not hold is as good as blank, and anything else is refused. -/
def namesOf : List Value → Except Value.Misuse (List String)
  | [] => .ok []
  | .text s :: rest => (namesOf rest).map (s :: ·)
  | v :: rest =>
    if v.holds then .error (.noAttribute v.kind "strip") else namesOf rest

/-- The plain short names that a value stands for. A text stands for its characters. -/
def normalizeValue (v : Value) : Except Value.Misuse (List String) := do
  return normalize (← namesOf (← v.items))

structure Resolution where
  dependencies : List Dependency
  unknown : List String

/-- The short names to look up: plain and without repeats, the database's driver among them. -/
def wanted (names : List String) (d : Database) : List String :=
  let plain := normalize names
  if plain.contains d.driver then plain else plain ++ [d.driver]

def resolve (names : List String) (d : Database) : Resolution where
  dependencies := (wanted names d).filterMap ofName?
  unknown := (wanted names d).filter fun name => (ofName? name).isNone

end Dependency

end Groundwork
