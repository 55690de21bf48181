import Groundwork.Text.Blank
import Groundwork.Text.CaseMap
import Groundwork.Value.Basic

/-!
# Choices of technology

The databases, packagings and kinds of repository that can be chosen, each with its name. A choice
may be written in any case and with blanks around it; anything else stands for the usual choice.
-/

namespace Groundwork

/-- The member of a list with the given name, written in any case and with blanks around it. -/
def chosen? {α : Type} (name : α → String) (all : List α) (v : Value) : Option α :=
  match v with
  | .text s => all.find? fun a => name a == Text.upper (Text.trim s)
  | _ => none

inductive RepositoryKind where
  | jpa
  | mongodb
  | reactiveMongo
  | reactiveRelational
  deriving Repr, DecidableEq

namespace RepositoryKind

def all : List RepositoryKind := [jpa, mongodb, reactiveMongo, reactiveRelational]

def name : RepositoryKind → String
  | jpa => "JPA"
  | mongodb => "MONGODB"
  | reactiveMongo => "REACTIVE_MONGO"
  | reactiveRelational => "REACTIVE_R2DBC"

/-- The interface that a repository of this kind extends. -/
def baseType : RepositoryKind → String
  | jpa => "JpaRepository"
  | mongodb => "MongoRepository"
  | reactiveMongo => "ReactiveMongoRepository"
  | reactiveRelational => "ReactiveCrudRepository"

def isReactive : RepositoryKind → Bool
  | reactiveMongo | reactiveRelational => true
  | jpa | mongodb => false

def ofValue (v : Value) : RepositoryKind :=
  (chosen? name all v).getD jpa

end RepositoryKind

inductive Database where
  | h2
  | mysql
  | postgresql
  | mongodb
  | sqlserver
  deriving Repr, DecidableEq

namespace Database

def all : List Database := [h2, mysql, postgresql, mongodb, sqlserver]

def name : Database → String
  | h2 => "H2"
  | mysql => "MYSQL"
  | postgresql => "POSTGRESQL"
  | mongodb => "MONGODB"
  | sqlserver => "SQLSERVER"

/-- The database of exactly this name. -/
def ofName? (s : String) : Option Database :=
  all.find? (·.name == s)

def ofValue (v : Value) : Database :=
  (chosen? name all v).getD h2

/-- The dependency that brings the driver. -/
def driver : Database → String
  | h2 => "h2"
  | mysql => "mysql"
  | postgresql => "postgresql"
  | mongodb => "mongodb"
  | sqlserver => "sqlserver"

/-- How an application connects to a relational database. -/
structure Connection where
  driverClass : String
  url : String
  user : String
  password : String
  dialect : String

def connection : Database → Option Connection
  | h2 =>
    some ⟨"org.h2.Driver", "jdbc:h2:mem:testdb", "sa", "", "org.hibernate.dialect.H2Dialect"⟩
  | mysql =>
    some ⟨"com.mysql.cj.jdbc.Driver", "jdbc:mysql://localhost:3306/database", "root", "password",
      "org.hibernate.dialect.MySQL8Dialect"⟩
  | postgresql =>
    some ⟨"org.postgresql.Driver", "jdbc:postgresql://localhost:5432/database", "postgres",
      "password", "org.hibernate.dialect.PostgreSQLDialect"⟩
  | sqlserver =>
    some ⟨"com.microsoft.sqlserver.jdbc.SQLServerDriver",
      "jdbc:sqlserver://localhost:1433;databaseName=database", "sa", "password",
      "org.hibernate.dialect.SQLServerDialect"⟩
  | mongodb => none

/-- The values that the settings of an application need. -/
def bindings (d : Database) : Bindings :=
  match d.connection with
  | some c =>
    [("database_driver", .text c.driverClass),
      ("database_url", .text c.url),
      ("database_username", .text c.user),
      ("database_password", .text c.password),
      ("hibernate_dialect", .text c.dialect)]
  | none => [("mongodb_uri", .text "mongodb://localhost:27017/database")]

end Database

inductive Packaging where
  | jar
  | war
  deriving Repr, DecidableEq

namespace Packaging

def all : List Packaging := [jar, war]

def name : Packaging → String
  | jar => "JAR"
  | war => "WAR"

def ofValue (v : Value) : Packaging :=
  (chosen? name all v).getD jar

end Packaging

end Groundwork
